/-!
# The keypad

Sixteen keys, one for each hexadecimal digit.  The machine asks two things of them: whether a key is
held, and which digit was typed last.

* `Keypad.press` — holds a key and records what was typed; `Keypad.release` lets go of it.
* `Keypad.takeTyped` — what was typed, which is handed out only once.
-/

namespace ChipEight

/-- The keys that are held, and the number typed last if nobody has asked for it yet. -/
structure Keypad where
  held : Vector Bool 16 := Vector.replicate 16 false
  typed : Option Int := none
  deriving DecidableEq

namespace Keypad

/-- A key goes down.  The number by which it was named, its digit unless told otherwise, replaces
what was typed before. -/
def press (keypad : Keypad) (key : Fin 16) (number : Int := key.val) : Keypad where
  held := keypad.held.set key true
  typed := some number

/-- A key goes up.  What was typed stays typed. -/
def release (keypad : Keypad) (key : Fin 16) : Keypad :=
  { keypad with held := keypad.held.set key false }

/-- No key is held and nothing is typed. -/
def clear (_ : Keypad) : Keypad := {}

/-- Whether a key is held. -/
def isDown (keypad : Keypad) (key : Fin 16) : Bool :=
  keypad.held[key]

/-- The keys that are held, in order. -/
def down (keypad : Keypad) : List (Fin 16) :=
  (List.finRange 16).filter keypad.isDown

/-- The typed number, and the keypad without it. -/
def takeTyped (keypad : Keypad) : Option Int × Keypad :=
  (keypad.typed, { keypad with typed := none })

/-! ## What the operations do to a key -/

@[simp] theorem isDown_press (keypad : Keypad) (key other : Fin 16) (number : Int) :
    (keypad.press key number).isDown other = if key = other then true else keypad.isDown other := by
  simp [press, isDown, Vector.getElem_set, Fin.ext_iff]

@[simp] theorem isDown_release (keypad : Keypad) (key other : Fin 16) :
    (keypad.release key).isDown other = if key = other then false else keypad.isDown other := by
  simp [release, isDown, Vector.getElem_set, Fin.ext_iff]

@[simp] theorem isDown_clear (keypad : Keypad) (key : Fin 16) :
    keypad.clear.isDown key = false := by
  simp [clear, isDown]

end Keypad

end ChipEight
