import ChipEight.Window.Basic

/-!
# What can be seen of a window

The picture at the left, and beside it a panel of labels.

* `Window.image` — the picture.
* `Window.labels` — the labels with their places and colours.
* `Window.drawing` — what is drawn, in order.
-/

namespace ChipEight.Window

/-- The text in the title bar. -/
def caption : String := "CHIP-8 Emulator"

/-- The width of the panel. -/
abbrev panelWidth : Nat := 200

/-- The width of the whole window. -/
abbrev width : Nat := Image.width + panelWidth

/-- The height of the whole window. -/
abbrev height : Nat := Image.height

/-- Frames in a second. -/
abbrev frameRate : Nat := 60

/-- How often in a second it is time for the rates. -/
abbrev ratesRate : Nat := 1

/-- A text in the panel, with the place of its left end. -/
structure Label where
  text : String
  x : Nat
  y : Nat
  colour : Colour
  deriving DecidableEq

/-- A label of the panel at a height. -/
def label (text : String) (y : Nat) (colour : Colour) : Label :=
  { text, x := Image.width + 8, y, colour }

/-- **The labels of the panel,** from top to bottom. -/
def labels (window : Window) : List Label :=
  [label window.drawingsText (height - 12) .white,
   label window.cyclesText (height - 28) .white,
   label window.stateText (height - 44) .white]
  ++ window.panel.zipIdx.map (fun line => label line.1 (height - 68 - 16 * line.2) .grey)
  ++ [label "SPACE run/pause" 26 .grey, label "F2 step  F3 skip" 10 .grey]

/-- **The picture.**  Before the first one is presented there is nothing. -/
def image (window : Window) : Image :=
  match window.shown with
  | none => Image.empty
  | some screen => Image.ofScreen screen

/-- What is drawn: first the background, then the picture from the corner on, then the labels. -/
def drawing (window : Window) : List String :=
  ["<clear>", "<image 0,0>"] ++ window.labels.map Label.text

end ChipEight.Window
