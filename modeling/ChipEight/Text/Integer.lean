import ChipEight.Text.Blank
import ChipEight.Text.DecimalDigit

/-!
# Reading integers

An integer is written as a sign, which may be missing, and decimal digits of any script.  Single
underscores may stand between digits and blanks around the whole.

* `Integer.digits?` — the digits of a numeral.
* `Integer.read?` — the value of a numeral.
-/

namespace ChipEight.Integer

/-- The most digits that a numeral may have. -/
def digitLimit : Nat := 4300

/-- The values of digits with single underscores between them. -/
def digits? : List Char → Option (List Nat)
  | [] => none
  | [c] => (DecimalDigit.value? c).map ([·])
  | c :: '_' :: rest => do
    let digit ← DecimalDigit.value? c
    let more ← digits? rest
    return digit :: more
  | c :: rest => do
    let digit ← DecimalDigit.value? c
    let more ← digits? rest
    return digit :: more

/-- The number that digits stand for; none if there are too many of them. -/
def magnitude? (text : List Char) : Option Nat := do
  let digits ← digits? text
  if digits.length ≤ digitLimit then
    return digits.foldl (fun value digit => 10 * value + digit) 0
  else none

/-- **The value of a numeral.** -/
def read? (text : String) : Option Int :=
  match Blank.trim text.toList with
  | '-' :: rest => (magnitude? rest).map fun n => -(n : Int)
  | '+' :: rest => (magnitude? rest).map Int.ofNat
  | rest => (magnitude? rest).map Int.ofNat

end ChipEight.Integer
