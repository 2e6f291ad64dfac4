/-!
# Numbered places

The places of a row are numbered from zero on.  A number below zero counts from the end of the row:
-1 names its last place.

* `Numbering.place?` — the place that a number names.
* `Numbering.byte?` — the byte that a number is.
-/

namespace ChipEight.Numbering

/-- **The place that a number names** in a row of some size, if it names one. -/
def place? (size : Nat) (number : Int) : Option (Fin size) :=
  if h : 0 ≤ number ∧ number < size then some ⟨number.toNat, by omega⟩
  else if h : number < 0 ∧ 0 ≤ number + size then some ⟨(number + size).toNat, by omega⟩
  else none

/-- The byte that a number is, if it is one. -/
def byte? (number : Int) : Option UInt8 :=
  if 0 ≤ number ∧ number < 256 then some (UInt8.ofNat number.toNat) else none

/-- A number below the size of the row names the place of that number. -/
@[simp] theorem place?_natCast {size number : Nat} (h : number < size) :
    place? size (number : Int) = some ⟨number, h⟩ := by
  simp [place?, h]

/-- A number names no place if it is too large, or if it counts back beyond the first place. -/
theorem place?_eq_none_iff {size : Nat} {number : Int} :
    place? size number = none ↔ (size : Int) ≤ number ∨ number < -size := by
  unfold place?
  split
  · simp; omega
  · split
    · simp; omega
    · simp; omega

end ChipEight.Numbering
