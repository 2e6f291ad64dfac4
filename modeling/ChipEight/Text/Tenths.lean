import ChipEight.Precision
import ChipEight.Text.Numeral

/-!
# Quotients to one decimal place

A quotient is first taken to the nearest number of 53 binary digits, and that number, exactly, is
then rounded to tenths.  Both roundings take a tie to the even neighbour.

* `Tenths.tenths` — how many tenths there are in a quotient.
* `Tenths.quotient` — the text.
-/

namespace ChipEight.Tenths

open Numeral

/-- The tenths of a quotient. -/
def tenths (n d : Nat) : Nat :=
  let kept := Precision.binary n d
  Precision.roundDiv (10 * kept.1) kept.2

/-- **A quotient with one decimal place.** -/
def quotient (n d : Nat) : String :=
  let all := tenths n d
  decimal (all / 10) ++ "." ++ decimal (all % 10)

end ChipEight.Tenths
