import ChipEight.Table

/-!
# Key layouts

A layout gives digits to the names of host keys.  Together with the symbol of each named key it
becomes a key map, which gives digits to symbols.

* `Layout.hexadecimal`, `Layout.cosmac` — the two layouts on offer, by the numbers of their digits.
* `Layout.keymap` — the key map of a layout, or the first name that has no symbol.
-/

namespace ChipEight

/-- The digits of named keys, in the order of the layout. -/
abbrev Layout (δ : Type) := Table String δ

namespace Layout

/-- A layout from the numbers of its digits. -/
def ofNumbers (entries : List (String × Nat)) : Layout (Fin 16) :=
  entries.map fun entry => (entry.1, ⟨entry.2 % 16, by omega⟩)

/-- Each digit on the key that bears it, A to F on the letters. -/
def hexadecimal : Layout (Fin 16) :=
  ofNumbers
    [("_0", 0x0), ("_1", 0x1), ("_2", 0x2), ("_3", 0x3),
     ("_4", 0x4), ("_5", 0x5), ("_6", 0x6), ("_7", 0x7),
     ("_8", 0x8), ("_9", 0x9), ("A", 0xA), ("B", 0xB),
     ("C", 0xC), ("D", 0xD), ("E", 0xE), ("F", 0xF)]

/-- The four rows of four keys at the left of a keyboard, in the arrangement of the COSMAC VIP. -/
def cosmac : Layout (Fin 16) :=
  ofNumbers
    [("_1", 0x1), ("_2", 0x2), ("_3", 0x3), ("_4", 0xC),
     ("Q", 0x4), ("W", 0x5), ("E", 0x6), ("R", 0xD),
     ("A", 0x7), ("S", 0x8), ("D", 0x9), ("F", 0xE),
     ("Z", 0xA), ("X", 0x0), ("C", 0xB), ("V", 0xF)]

variable {σ δ : Type} [DecidableEq σ]

/-- The key map of a layout: the digit of each key symbol.  Of two names with one symbol the later
one counts.  Fails with the first name that has no symbol. -/
def keymap (layout : Layout δ) (symbol : String → Option σ) : Except String (Table σ δ) :=
  layout.foldlM (fun map entry =>
    match symbol entry.1 with
    | some key => .ok (map.insert key entry.2)
    | none => .error entry.1) []

end Layout

end ChipEight
