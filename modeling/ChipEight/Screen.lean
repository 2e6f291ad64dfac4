/-!
# The screen

64 by 32 pixels, each on or off, kept row by row from the top left corner.

* `Screen.cell` — the place of a pixel; columns and rows beyond the edges wrap around.
* `Screen.isLit` — whether a pixel is on.
* `Screen.toggle`, `Screen.draw` — turning over one pixel, and a list of pixels one after another.
-/

namespace ChipEight

/-- Pixels in a row. -/
abbrev Screen.width : Nat := 64

/-- Rows of pixels. -/
abbrev Screen.height : Nat := 32

/-- The pixels of the screen, row after row. -/
abbrev Screen := Vector Bool 2048

namespace Screen

/-- Every pixel is off. -/
def blank : Screen := Vector.replicate 2048 false

/-- The place of the pixel in a column and a row, both taken around the screen. -/
def cell (column row : Nat) : Fin 2048 :=
  ⟨row % height * width + column % width, by
    have := Nat.mod_lt row (show 0 < height by decide)
    have := Nat.mod_lt column (show 0 < width by decide)
    simp only [height, width] at *
    omega⟩

/-- Every place is that of the pixel in its column and its row. -/
theorem cell_mod_div (pixel : Fin 2048) :
    cell (pixel.val % width) (pixel.val / width) = pixel := by
  simp only [cell, width, height, Fin.ext_iff]
  omega

/-- Whether the pixel in a column and a row is on. -/
def isLit (screen : Screen) (column row : Nat) : Bool :=
  screen[cell column row]

/-- The rows of the screen, topmost first, each from left to right. -/
def rows (screen : Screen) : List (List Bool) :=
  (List.range height).map fun row => (List.range width).map fun column => screen.isLit column row

/-- The screen with one pixel on. -/
def light (screen : Screen) (pixel : Fin 2048) : Screen :=
  screen.set pixel true

/-- The screen with one pixel turned over. -/
def toggle (screen : Screen) (pixel : Fin 2048) : Screen :=
  screen.set pixel !screen[pixel]

/-- **Drawing turns over the given pixels one after another,** and tells whether one of them was on
when its turn came. -/
def draw (screen : Screen) : List (Fin 2048) → Screen × Bool
  | [] => (screen, false)
  | pixel :: rest =>
    let wasLit := screen[pixel]
    let drawn := draw (screen.toggle pixel) rest
    (drawn.1, wasLit || drawn.2)

/-- Turning over changes one pixel. -/
theorem getElem_toggle (screen : Screen) (pixel other : Fin 2048) :
    (screen.toggle pixel)[other] = if pixel = other then !screen[pixel] else screen[other] := by
  simp [toggle, Vector.getElem_set, Fin.ext_iff]

end Screen

end ChipEight
