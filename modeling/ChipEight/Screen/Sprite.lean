import ChipEight.Screen

/-!
# Sprites

A sprite is a column of bytes, each a row of eight pixels with the highest bit at the left.  Its
anchor, the place of its top left pixel, always lies on the screen; the rest either wraps around the
edges or is cut off there.

* `Sprite.rowPixels` — the pixels under the bits of one row.
* `Sprite.pixels` — the pixels under all its bits, in drawing order.
-/

namespace ChipEight.Sprite

open Screen

/-- The bit of a row at a distance from its left end. -/
def bitAt (bits : UInt8) (offset : Nat) : Bool :=
  bits.toNat.testBit (7 - offset)

/-- The pixels under the bits of a row of a sprite, from left to right.  With `clips` those beyond
the right edge are left out, otherwise they wrap around. -/
def rowPixels (clips : Bool) (column row : Nat) (bits : UInt8) : List (Fin 2048) :=
  (List.range 8).filterMap fun offset =>
    if bitAt bits offset && (!clips || column + offset < width) then
      some (cell (column + offset) row)
    else none

/-- The pixels under the bits of a sprite with its anchor in a column and a row, row by row. -/
def pixels (clips : Bool) (column row : Nat) : List UInt8 → List (Fin 2048)
  | [] => []
  | bits :: rest => rowPixels clips column row bits ++ pixels clips column (row + 1) rest

/-- How many rows of a sprite of a given height are drawn from a row of the screen on. -/
def visibleRows (clips : Bool) (row spriteHeight : Nat) : Nat :=
  if clips then min spriteHeight (height - row) else spriteHeight

end ChipEight.Sprite
