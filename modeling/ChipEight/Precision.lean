/-!
# Numbers of 53 binary digits

Measurements are kept to 53 significant binary digits.  A number that has more of them is replaced
by the nearest one that has not; a tie goes to the even neighbour.

* `Precision.roundDiv` — a quotient to the nearest integer.
* `Precision.keep` — an integer to 53 binary digits.
* `Precision.binary` — a quotient to 53 binary digits, as an exact fraction.
* `Precision.roundDiv_near` — rounding errs by half at most.
* `Precision.keep_small` — an integer with no more than 53 binary digits is kept as it is.
-/

namespace ChipEight.Precision

/-- The integer nearest to a quotient, of two equally near ones the even one. -/
def roundDiv (n d : Nat) : Nat :=
  let floor := n / d
  let rest := n % d
  if 2 * rest < d then floor
  else if d < 2 * rest then floor + 1
  else floor + floor % 2

/-- A size to 53 binary digits: the nearest multiple of the unit that 53 digits leave. -/
def keepSize (n : Nat) : Nat :=
  if n ≤ 1 <<< 53 then n
  else
    let unit := 1 <<< (n.log2 - 52)
    roundDiv n unit * unit

/-- **An integer to 53 binary digits.**  The sign does not matter. -/
def keep : Int → Int
  | .ofNat n => keepSize n
  | .negSucc n => -keepSize (n + 1)

/-- The number of 53 binary digits nearest to a quotient, as a numerator and a denominator.  With
the quotient scaled by a power of two into the range from 2^52 to 2^53, it is the nearest
integer. -/
def binary (n d : Nat) : Nat × Nat :=
  if n = 0 then (0, 1)
  else
    let guess : Int := 52 - n.log2 + d.log2
    let up := fun (shift : Int) => 1 <<< shift.toNat
    let down := fun (shift : Int) => 1 <<< (-shift).toNat
    let shift := if n * up guess / (d * down guess) < 1 <<< 52 then guess + 1 else guess
    (roundDiv (n * up shift) (d * down shift) * down shift, up shift)

/-! ## The laws of rounding -/

/-- **A rounded quotient is within half of the quotient.** -/
theorem roundDiv_near (n : Nat) {d : Nat} (h : 0 < d) :
    2 * (d * roundDiv n d) ≤ 2 * n + d ∧ 2 * n ≤ 2 * (d * roundDiv n d) + d := by
  have hn := Nat.div_add_mod n d
  have hr := Nat.mod_lt n h
  rw [roundDiv]
  split
  · omega
  · split
    · rw [Nat.mul_add]
      omega
    · rcases Nat.mod_two_eq_zero_or_one (n / d) with he | ho
      · rw [he, Nat.add_zero]
        omega
      · rw [ho, Nat.mul_add]
        omega

/-- **Up to 53 binary digits nothing is lost.** -/
theorem keep_small {n : Int} (h : n.natAbs ≤ 1 <<< 53) : keep n = n := by
  cases n with
  | ofNat n =>
    rw [keep, keepSize, if_pos (by simpa using h)]
    rfl
  | negSucc n =>
    rw [keep, keepSize, if_pos (by simpa using h)]
    rfl

end ChipEight.Precision
