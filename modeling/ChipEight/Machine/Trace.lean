import ChipEight.Instruction.Basic
import ChipEight.Text.Numeral

/-!
# Trace entries

What the machine reports about its own doings while it is traced.  An entry holds the values it
reports as they were at that point; `Trace.text` words them.
-/

namespace ChipEight

open Numeral

/-- One entry of a trace. -/
inductive Trace where
  /-- A program was put into memory. -/
  | loaded (size : Nat)
  /-- A typed digit ended a wait. -/
  | keyStored (digit : UInt8) (register : Register)
  /-- A return took up a return address. -/
  | returned (address : Nat)
  /-- A subroutine was entered. -/
  | called (target : Address)
  /-- One register was added to another, with what the latter and VF hold afterwards. -/
  | added (source target : Register) (result carry : UInt8)
  /-- A sprite was drawn with its anchor in a column and a row. -/
  | drew (column row : Nat) (collision : UInt8)
  /-- A wait for a key began. -/
  | awaiting (register : Register)
  deriving DecidableEq

/-- **The text of an entry.** -/
def Trace.text : Trace → String
  | .loaded size => "Loaded " ++ decimal size ++ " bytes at 0x200"
  | .keyStored digit register => "Key " ++ hex digit.toNat ++ " stored in V" ++ hex register
  | .returned address => "Return to 0x" ++ hexPadded 3 address
  | .called target => "Call subroutine at 0x" ++ hexPadded 3 target
  | .added source target result carry =>
      "Add V" ++ hex source ++ " to V" ++ hex target ++ ": result " ++ decimal result.toNat
        ++ ", carry=" ++ decimal carry.toNat
  | .drew column row collision =>
      "Drew sprite at (" ++ decimal column ++ ", " ++ decimal row ++ "), collision="
        ++ decimal collision.toNat
  | .awaiting register => "Waiting for key into V" ++ hex register

end ChipEight
