import ChipEight.Screen

/-!
# The picture in the window

The screen enlarged: each pixel becomes a square of ten by ten, white if it is on and black if not.
Rows are counted from the bottom, as the window counts them.

* `Image.scale` — the side of a square.
* `Image.ofScreen` — the picture of a screen.
* `Image.empty` — what the window holds before there is a picture.
-/

namespace ChipEight

/-- A colour with its opacity. -/
structure Colour where
  red : UInt8
  green : UInt8
  blue : UInt8
  alpha : UInt8
  deriving DecidableEq

namespace Colour

/-- No colour at all. -/
def clear : Colour := ⟨0, 0, 0, 0⟩

/-- The colour of a pixel that is off. -/
def black : Colour := ⟨0, 0, 0, 255⟩

/-- The colour of a pixel that is on, and of the important labels. -/
def white : Colour := ⟨255, 255, 255, 255⟩

/-- The colour of the other labels. -/
def grey : Colour := ⟨160, 160, 160, 255⟩

/-- The colour of a pixel of the screen. -/
def ofPixel (lit : Bool) : Colour :=
  if lit then white else black

end Colour

/-- Rows of colours, bottom row first, each from left to right. -/
abbrev Image := List (List Colour)

namespace Image

/-- The side of the square that stands for a pixel. -/
abbrev scale : Nat := 10

/-- The width of the picture. -/
abbrev width : Nat := Screen.width * scale

/-- The height of the picture. -/
abbrev height : Nat := Screen.height * scale

/-- A list with each element repeated. -/
def stretch {α : Type} (list : List α) : List α :=
  list.flatMap (List.replicate scale)

/-- **The picture of a screen.** -/
def ofScreen (screen : Screen) : Image :=
  stretch (screen.rows.reverse.map fun row => stretch (row.map Colour.ofPixel))

/-- Nothing at all, not even black. -/
def empty : Image :=
  List.replicate height (List.replicate width Colour.clear)

/-! ## Stretching -/

/-- **Every place of a stretched list shows the element that its square belongs to.** -/
theorem getElem?_stretch {α : Type} (list : List α) (i : Nat) :
    (stretch list)[i]? = list[i / scale]? := by
  induction list generalizing i with
  | nil => simp [stretch]
  | cons a rest ih =>
    rw [stretch, List.flatMap_cons, ← stretch]
    by_cases h : i < scale
    · rw [List.getElem?_append_left (by simpa using h), Nat.div_eq_of_lt h]
      simp [h]
    · have hs : scale ≤ i := Nat.le_of_not_lt h
      rw [List.getElem?_append_right (by simpa using hs), List.length_replicate, ih,
        show i / scale = (i - scale) / scale + 1 by
          rw [Nat.div_eq_sub_div (by decide) hs],
        List.getElem?_cons_succ]

end Image

end ChipEight
