import ChipEight.Precision
import ChipEight.Text.Tenths

/-!
# The clock

The clock tells how much time has gone by since it started, in quarters of a second.  It keeps 53
binary digits, so that a clock that has run for long does not notice short spans any more; and it
has an end on either side, beyond which all times are alike.

* `Span` — a span of time as the clock tells it.
* `Span.advance` — the time after some more quarters of a second.
* `Span.since` — the span from one time to another.
* `Span.rate` — how often per second something happened that was counted over a span.
-/

namespace ChipEight

/-- A span of time, forwards or backwards. -/
inductive Span where
  | quarters (count : Int)
  /-- Further forwards than the clock can tell. -/
  | endless
  /-- Further backwards than the clock can tell. -/
  | endlessBack
  deriving DecidableEq

namespace Span

/-- Quarters of a second in a second. -/
abbrev second : Nat := 4

/-- The number of quarters of a second from which on the clock cannot tell them any more. -/
def limit : Int := (1 <<< 1026 : Nat)

/-- The span of some quarters of a second, to the precision of the clock. -/
def ofQuarters (count : Int) : Span :=
  let kept := Precision.keep count
  if limit ≤ kept then .endless
  else if kept ≤ -limit then .endlessBack
  else .quarters kept

/-- **The time after some more quarters of a second.**  From beyond its ends the clock does not come
back. -/
def advance (time : Span) (count : Int) : Span :=
  match time with
  | .quarters now => ofQuarters (now + Precision.keep count)
  | .endless => .endless
  | .endlessBack => .endlessBack

/-- **The span since an earlier time.**  Between two times beyond one end there is none. -/
def since : Span → Span → Option Span
  | .quarters now, .quarters before => some (ofQuarters (now - before))
  | .quarters _, .endless => some .endlessBack
  | .quarters _, .endlessBack => some .endless
  | .endless, .endless => none
  | .endless, _ => some .endless
  | .endlessBack, .endlessBack => none
  | .endlessBack, _ => some .endlessBack

/-- Whether a span is a second or longer. -/
def isFullSecond : Span → Bool
  | .quarters count => second ≤ count
  | .endless => true
  | .endlessBack => false

/-- **A count per second of a span,** with one decimal place.  Over an endless span it is zero. -/
def rate (count : Nat) : Span → String
  | .quarters time => Tenths.quotient (second * count) time.toNat
  | .endless | .endlessBack => Tenths.quotient 0 1

end Span

end ChipEight
