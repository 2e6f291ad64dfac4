/-!
# Slices

A slice of a row is what lies from one number up to another.  Any two numbers bound a slice: below
zero they count from the end of the row, and a number beyond an end of the row stands for that end.
Whatever is put in the place of a slice need not be as long as the slice, so the row can grow and
shrink.

* `Slice.bound` — the place where a number cuts a row.
* `Slice.read` — what lies in a slice.
* `Slice.assign` — the row with something else in the place of a slice.
* `Slice.length_assign`, `Slice.assign_all` — how long the row is then, and what it is if all of it
  was replaced.
-/

namespace ChipEight.Slice

variable {α : Type}

/-- The place where a number cuts a row of some size. -/
def bound (size : Nat) (number : Int) : Nat :=
  if number < 0 then (number + size).toNat else min number.toNat size

/-- What lies from one number up to another. -/
def read (row : List α) (start stop : Int) : List α :=
  (row.take (bound row.length stop)).drop (bound row.length start)

/-- **The row with something else in the place of a slice.**  A slice that would end before it
starts is empty and lies where it starts. -/
def assign (row : List α) (start stop : Int) (items : List α) : List α :=
  let first := bound row.length start
  row.take first ++ items ++ row.drop (max first (bound row.length stop))

/-- No number cuts a row behind its end. -/
theorem bound_le (size : Nat) (number : Int) : bound size number ≤ size := by
  unfold bound
  split <;> omega

/-- A number that lies in a row cuts it at the place of that number. -/
theorem bound_natCast {size number : Nat} (h : number ≤ size) :
    bound size (number : Int) = number := by
  rw [bound, if_neg (by omega), Int.toNat_natCast, Nat.min_eq_left h]

/-- **The length of a row after a slice of it was replaced:** what lies before the slice, what came
in its place and what lies behind it. -/
theorem length_assign (row : List α) (start stop : Int) (items : List α) :
    (assign row start stop items).length =
      bound row.length start + items.length +
        (row.length - max (bound row.length start) (bound row.length stop)) := by
  simp only [assign, List.length_append, List.length_take, List.length_drop]
  have hfirst := bound_le row.length start
  omega

/-- A whole row is replaced by whatever comes in its place. -/
theorem assign_all (row items : List α) : assign row 0 row.length items = items := by
  have hzero : bound row.length 0 = 0 := bound_natCast (Nat.zero_le _)
  rw [assign, hzero, bound_natCast (Nat.le_refl _), Nat.max_eq_right (Nat.zero_le _),
    List.take_zero, List.drop_length, List.append_nil, List.nil_append]

end ChipEight.Slice
