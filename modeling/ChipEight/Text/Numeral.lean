/-!
# Numerals

Numbers as text, in base ten and in base sixteen, filled on the left to a given width.

* `padLeft` — a text filled on the left up to a width; a longer text is kept whole.
* `decimal`, `hex` — the shortest numeral of a number, the second one with capital letters.
* `decimalPadded`, `hexPadded` — the same numerals, filled with blanks and with zeros.
* `decimalSigned`, `hexSigned` — numerals of signed numbers; the sign counts in the width.
-/

namespace ChipEight.Numeral

/-- The text, with the fill character before it until it is `width` characters long. -/
def padLeft (width : Nat) (fill : Char) (text : List Char) : List Char :=
  List.replicate (width - text.length) fill ++ text

/-- The decimal digits of a number, most significant first; zero has one digit. -/
def decimalDigits (n : Nat) : List Char :=
  Nat.toDigits 10 n

/-- The hexadecimal digits of a number, most significant first, letters in capitals. -/
def hexDigits (n : Nat) : List Char :=
  (Nat.toDigits 16 n).map Char.toUpper

/-- The shortest decimal numeral. -/
def decimal (n : Nat) : String :=
  String.ofList (decimalDigits n)

/-- The shortest decimal numeral of a signed number. -/
def decimalSigned : Int → String
  | .ofNat n => decimal n
  | .negSucc n => "-" ++ decimal (n + 1)

/-- The decimal numeral, filled with blanks to `width`. -/
def decimalPadded (width n : Nat) : String :=
  String.ofList (padLeft width ' ' (decimalDigits n))

/-- The shortest hexadecimal numeral. -/
def hex (n : Nat) : String :=
  String.ofList (hexDigits n)

/-- The hexadecimal numeral, filled with zeros to `width`. -/
def hexPadded (width n : Nat) : String :=
  String.ofList (padLeft width '0' (hexDigits n))

/-- The hexadecimal numeral of a signed number.  The minus sign stands before the zeros and takes
one place of the width. -/
def hexSigned (width : Nat) : Int → String
  | .ofNat n => hexPadded width n
  | .negSucc n => "-" ++ hexPadded (width - 1) (n + 1)

/-! ## Widths -/

/-- Filling reaches the width, and never cuts. -/
theorem length_padLeft (width : Nat) (fill : Char) (text : List Char) :
    (padLeft width fill text).length = max width text.length := by
  simp [padLeft]
  omega

end ChipEight.Numeral
