import ChipEight.Text.Numeral

/-!
# Faults of the machine

A cycle that cannot be carried out is refused with a fault.  A fault has a kind, which carries the
address or the instruction word concerned, and may carry a text for the occasion.

* `Fault.Kind` — the causes.
* `Fault.message` — the text of a fault: the one for the occasion, or else the text of its kind.
* `Fault.outsideMemory`, `Fault.notAKey` — the two faults that have a text of their own.
-/

namespace ChipEight

open Numeral

/-- What a fault is about. -/
inductive Fault.Kind where
  /-- A fault of no particular kind. -/
  | general
  /-- Memory was asked for at an address that it does not have. -/
  | illegalAddress (address : Int)
  /-- A return with no call outstanding. -/
  | illegalReturn
  /-- A call with every place for return addresses taken. -/
  | stackFull
  /-- An instruction word that means nothing here. -/
  | unknownWord (word : Int)
  deriving DecidableEq

namespace Fault.Kind

/-- The name under which a kind of fault is reported. -/
def name : Fault.Kind → String
  | .general => "Chip8Error"
  | .illegalAddress _ => "IllegalAddress"
  | .illegalReturn => "IllegalReturn"
  | .stackFull => "StackFull"
  | .unknownWord _ => "UnknownOp"

/-- The text of a kind of fault, with the address or the word in at least four digits. -/
def description : Fault.Kind → String
  | .general => "The virtual machine faulted!"
  | .illegalAddress address =>
      "Trying to access illegal address! (0x" ++ hexSigned 4 address ++ ")"
  | .illegalReturn => "Trying to return from global scope!"
  | .stackFull => "The call stack is full! Cannot call another function."
  | .unknownWord word => "An unknown opcode has been encountered! (" ++ hexSigned 4 word ++ ")"

end Fault.Kind

/-- A fault: its kind, and the text of the occasion, empty where the kind says it all. -/
structure Fault where
  kind : Fault.Kind
  occasion : String := ""
  deriving DecidableEq

namespace Fault

/-- **The text of a fault.**  An empty text for the occasion counts as none. -/
def message (fault : Fault) : String :=
  if fault.occasion = "" then fault.kind.description else fault.occasion

/-- The program counter leaves no room for a whole instruction word. -/
def outsideMemory (pc : Int) : Fault where
  kind := .illegalAddress pc
  occasion := "PC out of bounds: 0x" ++ hexSigned 4 pc

/-- A key test on a register whose value names no key. -/
def notAKey (word : UInt16) (register : Fin 16) (value : UInt8) : Fault where
  kind := .unknownWord word.toNat
  occasion := "Key test on V" ++ hex register ++ " = " ++ decimal value.toNat ++ ", not a hex key"

end Fault

end ChipEight
