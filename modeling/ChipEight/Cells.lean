import ChipEight.Numbering
import ChipEight.Slice

/-!
# Stores of bytes

Memory and the register file are rows of a fixed number of bytes, read and written in runs.

* `Cells.read`, `Cells.write` — a run of bytes, and the store with a run of bytes put in place.
* `Cells.overwrite` — the same for a run that is known to lie within the store.
* `Cells.slice`, `Cells.assign?` — the bytes of a slice, and the store with bytes put in the place
  of a slice; refused if that would change its size.
* `Cells.byte?`, `Cells.bytes?`, `Cells.setBytes?` — the same byte by byte, at numbers that may
  count from the end; refused if one of the numbers names no place.
* `Cells.getElem_write` — after a write, the run holds the bytes written and all else is as before.
* **`Cells.assign?_eq_some_iff`** — a slice is replaced just where the row that comes out has the
  size of the store, and then that row is in the store.
* `Cells.bytes?_natCast`, `Cells.setBytes?_natCast`, `Cells.slice_natCast`,
  `Cells.assign?_natCast`, `Cells.toList_overwrite` — at numbers that need not count from the end
  all these ways are one.
-/

namespace ChipEight

/-- A store of `n` bytes. -/
abbrev Cells (n : Nat) := Vector UInt8 n

namespace Cells

variable {n : Nat}

/-- The `count` bytes from `start` on, fewer where the store ends before that. -/
def read (cells : Cells n) (start count : Nat) : List UInt8 :=
  (cells.toArray.extract start (start + count)).toList

/-- The store with the given bytes from `start` on, as far as they lie within it. -/
def write (cells : Cells n) (start : Nat) : List UInt8 → Cells n
  | [] => cells
  | byte :: bytes => write (cells.setIfInBounds start byte) (start + 1) bytes

/-- The store with the given bytes from `start` on, all of which lie within it. -/
def overwrite (cells : Cells n) (start : Nat) (bytes : List UInt8)
    (_room : start + bytes.length ≤ n) : Cells n :=
  cells.write start bytes

/-- The bytes of a slice. -/
def slice (cells : Cells n) (start stop : Int) : List UInt8 :=
  let first := Slice.bound n start
  cells.read first (Slice.bound n stop - first)

/-- **The store with bytes in the place of a slice,** if there are as many of them as the slice
has. -/
def assign? (cells : Cells n) (start stop : Int) (bytes : List UInt8) : Option (Cells n) :=
  let first := Slice.bound n start
  if bytes.length = Slice.bound n stop - first then some (cells.write first bytes) else none

/-- The byte at a number. -/
def byte? (cells : Cells n) (number : Int) : Option UInt8 :=
  (Numbering.place? n number).map fun place => cells[place]

/-- The bytes at `count` numbers from `number` on. -/
def bytes? (cells : Cells n) (number : Int) : Nat → Option (List UInt8)
  | 0 => some []
  | count + 1 =>
    match cells.byte? number, cells.bytes? (number + 1) count with
    | some byte, some bytes => some (byte :: bytes)
    | _, _ => none

/-- The store with the given bytes at the numbers from `number` on. -/
def setBytes? (cells : Cells n) (number : Int) : List UInt8 → Option (Cells n)
  | [] => some cells
  | byte :: bytes =>
    match Numbering.place? n number with
    | none => none
    | some place => setBytes? (cells.set place byte) (number + 1) bytes

/-! ## Reading after writing -/

/-- **A write changes its run and nothing else.** -/
theorem getElem_write (bytes : List UInt8) (cells : Cells n) (start i : Nat) (h : i < n) :
    (cells.write start bytes)[i] =
      if start ≤ i then (bytes[i - start]?).getD cells[i] else cells[i] := by
  induction bytes generalizing cells start with
  | nil => simp [write]
  | cons byte bytes ih =>
    rw [write, ih]
    by_cases hlt : i < start
    · rw [if_neg (by omega), if_neg (by omega), Vector.getElem_setIfInBounds]
      simp [show start ≠ i by omega]
    · by_cases heq : start = i
      · subst heq
        rw [if_neg (by omega), if_pos (by omega), Vector.getElem_setIfInBounds]
        simp
      · rw [if_pos (by omega), if_pos (by omega), Vector.getElem_setIfInBounds,
          if_neg heq, show i - start = (i - (start + 1)) + 1 by omega, List.getElem?_cons_succ]

/-- A run read back has the bytes of the store, up to its end. -/
theorem getElem?_read (cells : Cells n) (start count i : Nat) :
    (cells.read start count)[i]? = if i < count then cells[start + i]? else none := by
  simp only [read, Array.getElem?_toList, Array.getElem?_extract, Vector.getElem?_toArray]
  grind

/-- A run within the store has as many bytes as were asked for. -/
theorem length_read (cells : Cells n) {start count : Nat} (h : start + count ≤ n) :
    (cells.read start count).length = count := by
  simp only [read, Array.length_toList, Array.size_extract, Vector.size_toArray]
  omega

/-! ## Slices -/

/-- **A write that fits, as a row:** what lies before the run, the bytes written, and what lies
behind it. -/
theorem toList_write (cells : Cells n) {start : Nat} {bytes : List UInt8}
    (h : start + bytes.length ≤ n) :
    (cells.write start bytes).toList =
      cells.toList.take start ++ bytes ++ cells.toList.drop (start + bytes.length) := by
  have hstart : (cells.toList.take start).length = start := by
    rw [List.length_take, Vector.length_toList]
    omega
  apply List.ext_getElem?
  intro i
  rw [Vector.getElem?_toList, List.getElem?_append, List.getElem?_append, List.length_append,
    hstart, List.getElem?_take, List.getElem?_drop, Vector.getElem?_toList, Vector.getElem?_toList]
  -- a place of the store lies before the run, in it or behind it
  by_cases hi : i < n
  · rw [Vector.getElem?_eq_getElem hi, getElem_write]
    by_cases hbefore : i < start
    · rw [if_neg (by omega), if_pos (by omega), if_pos hbefore, if_pos hbefore,
        Vector.getElem?_eq_getElem hi]
    · rw [if_pos (by omega), if_neg hbefore]
      by_cases hrun : i < start + bytes.length
      · rw [if_pos hrun, List.getElem?_eq_getElem (by omega), Option.getD_some]
      · rw [if_neg hrun, List.getElem?_eq_none (by omega), Option.getD_none,
          Nat.add_sub_of_le (by omega), Vector.getElem?_eq_getElem hi]
  · rw [Vector.getElem?_eq_none (by omega), if_neg (by omega), Nat.add_sub_of_le (by omega),
      Vector.getElem?_eq_none (by omega)]

/-- The bytes of a slice, as those of a row. -/
theorem slice_eq (cells : Cells n) (start stop : Int) :
    cells.slice start stop = Slice.read cells.toList start stop := by
  apply List.ext_getElem?
  intro i
  simp only [slice, getElem?_read, Slice.read, Vector.length_toList, List.getElem?_drop,
    List.getElem?_take, Vector.getElem?_toList]
  grind

/-- Bytes that are as many as a slice has, written where the slice starts, take its place. -/
theorem toList_write_bound (cells : Cells n) {start stop : Int} {bytes : List UInt8}
    (h : bytes.length = Slice.bound n stop - Slice.bound n start) :
    (cells.write (Slice.bound n start) bytes).toList =
      Slice.assign cells.toList start stop bytes := by
  have hfirst := Slice.bound_le n start
  have hlast := Slice.bound_le n stop
  have hend : Slice.bound n start + bytes.length =
      max (Slice.bound n start) (Slice.bound n stop) := by omega
  rw [toList_write cells (by omega), hend, Slice.assign, Vector.length_toList]

/-- **A slice is replaced just where the row that comes out has the size of the store,** and then
that row is in the store. -/
theorem assign?_eq_some_iff {cells other : Cells n} {start stop : Int} {bytes : List UInt8} :
    cells.assign? start stop bytes = some other ↔
      other.toList = Slice.assign cells.toList start stop bytes := by
  rw [assign?, Option.ite_none_right_eq_some, Option.some.injEq]
  constructor
  · rintro ⟨hsize, rfl⟩
    exact toList_write_bound cells hsize
  · intro hrow
    have hsize : bytes.length = Slice.bound n stop - Slice.bound n start := by
      have hlength := congrArg List.length hrow
      rw [Slice.length_assign, Vector.length_toList, Vector.length_toList] at hlength
      have hfirst := Slice.bound_le n start
      have hlast := Slice.bound_le n stop
      omega
    refine ⟨hsize, Vector.toList_inj.mp ?_⟩
    rw [toList_write_bound cells hsize, hrow]

/-! ## Numbers that need not count from the end -/

/-- The bytes at the numbers of a run are the run. -/
theorem bytes?_natCast (cells : Cells n) {start count : Nat} (h : start + count ≤ n) :
    cells.bytes? (start : Int) count = some (cells.read start count) := by
  induction count generalizing start with
  | zero => simp [bytes?, read]
  | succ count ih =>
    have hstart : start < n := by omega
    rw [bytes?, byte?, Numbering.place?_natCast hstart,
      show (start : Int) + 1 = ((start + 1 : Nat) : Int) by omega, ih (by omega)]
    simp only [Option.map_some, Option.some.injEq]
    apply List.ext_getElem?
    intro i
    cases i with
    | zero => simp [getElem?_read, hstart]
    | succ i =>
      simp only [List.getElem?_cons_succ, getElem?_read]
      rw [show start + 1 + i = start + (i + 1) by omega]
      simp

/-- Writing at the numbers of a run is writing the run. -/
theorem setBytes?_natCast (cells : Cells n) {start : Nat} {bytes : List UInt8}
    (h : start + bytes.length ≤ n) :
    cells.setBytes? (start : Int) bytes = some (cells.write start bytes) := by
  induction bytes generalizing cells start with
  | nil => rfl
  | cons byte bytes ih =>
    simp only [List.length_cons] at h
    have hstart : start < n := by omega
    rw [setBytes?, Numbering.place?_natCast hstart,
      show (start : Int) + 1 = ((start + 1 : Nat) : Int) by omega]
    have hset : cells.set start byte hstart = cells.setIfInBounds start byte := by
      ext i hi
      rw [Vector.getElem_set, Vector.getElem_setIfInBounds]
    simp only [hset, write]
    exact ih _ (by omega)

/-- The bytes of a slice that lies within the store are the run there. -/
theorem slice_natCast (cells : Cells n) {start count : Nat} (h : start + count ≤ n) :
    cells.slice (start : Int) (start + count : Int) = cells.read start count := by
  rw [slice, Slice.bound_natCast (by omega), ← Int.natCast_add, Slice.bound_natCast h,
    Nat.add_sub_cancel_left]

/-- A slice that lies within the store is replaced by writing the run there. -/
theorem assign?_natCast (cells : Cells n) {start : Nat} {bytes : List UInt8}
    (h : start + bytes.length ≤ n) :
    cells.assign? (start : Int) (start + bytes.length : Int) bytes =
      some (cells.write start bytes) := by
  rw [assign?, Slice.bound_natCast (by omega), ← Int.natCast_add, Slice.bound_natCast h,
    if_pos (Nat.add_sub_cancel_left _ _).symm]

/-- A slice of one store is put in the place of a slice of another that is as long. -/
theorem assign?_slice {m : Nat} (cells : Cells n) (source : Cells m) {start first count : Nat}
    (hn : start + count ≤ n) (hm : first + count ≤ m) :
    cells.assign? (start : Int) (start + count : Int)
        (source.slice (first : Int) (first + count : Int)) =
      some (cells.write start (source.read first count)) := by
  have hlength := source.length_read hm
  have hassign := @assign?_natCast _ cells start (source.read first count)
  rw [hlength] at hassign
  rw [source.slice_natCast hm, hassign hn]

/-- **A run known to lie within the store is put in the place of its slice.** -/
theorem toList_overwrite (cells : Cells n) {start : Nat} {bytes : List UInt8}
    (room : start + bytes.length ≤ n) :
    (cells.overwrite start bytes room).toList =
      Slice.assign cells.toList start (start + bytes.length : Int) bytes :=
  assign?_eq_some_iff.mp (assign?_natCast cells room)

end Cells

end ChipEight
