import ChipEight.Text.Printable

/-!
# Quoted text

A text in quotes, in which every character is visible.  The quotes are single ones, unless the text
holds single quotes and no double ones.

* `Quoted.escape` — a character as it stands between quotes.
* `Quoted.quote` — a text in quotes.
-/

namespace ChipEight.Quoted

/-- The code point of a character in lower case, in a fixed number of digits. -/
def codeDigits (width : Nat) (c : Char) : List Char :=
  let digits := Nat.toDigits 16 c.toNat
  List.replicate (width - digits.length) '0' ++ digits

/-- A character as it stands between quotes of a kind.  The quote and the backslash get a backslash,
three controls have a letter of their own, and what cannot be seen is written by its code point. -/
def escape (mark c : Char) : List Char :=
  if c = mark || c = '\\' then ['\\', c]
  else if c = '\t' then ['\\', 't']
  else if c = '\n' then ['\\', 'n']
  else if c = '\r' then ['\\', 'r']
  else if 0x20 ≤ c.toNat && c.toNat < 0x7F then [c]
  else if 0x7F < c.toNat && Printable.isPrintable c then [c]
  else if c.toNat ≤ 0xFF then '\\' :: 'x' :: codeDigits 2 c
  else if c.toNat ≤ 0xFFFF then '\\' :: 'u' :: codeDigits 4 c
  else '\\' :: 'U' :: codeDigits 8 c

/-- The quotes that go around a text. -/
def markFor (text : List Char) : Char :=
  if text.contains '\'' && !text.contains '"' then '"' else '\''

/-- **A text in quotes.** -/
def quote (text : String) : String :=
  let mark := markFor text.toList
  String.ofList (mark :: text.toList.flatMap (escape mark) ++ [mark])

end ChipEight.Quoted
