import ChipEight.Instruction.Mnemonic
import ChipEight.Machine.Basic
import ChipEight.Text.Numeral

/-!
# Reports on the machine

The state of a machine as text, in two forms.

* `Machine.instructionText` — the word at the program counter with its notation.
* `Machine.reportLines`, `Machine.report` — the full report, a line for each register, return
  address and timer.
* `Machine.panelLines` — the short form, eleven lines for the panel of the window.
-/

namespace ChipEight.Machine

open Numeral

/-- The instruction at the program counter: its word in four digits and its notation. -/
def instructionText (machine : Machine) : String :=
  match machine.word? with
  | none => "----  (PC outside memory)"
  | some word => hexPadded 4 word.toNat ++ "  " ++ word.mnemonic

/-- The line of a register: its value in base ten and in base sixteen. -/
def registerLine (machine : Machine) (register : Register) : String :=
  let value := (machine.register register).toNat
  "\tV" ++ hex register ++ ": " ++ decimalPadded 3 value ++ " (0x" ++ hexPadded 2 value ++ ")"

/-- The line of a return address, with its position in the stack. -/
def callLine (address position : Nat) : String :=
  "\t" ++ decimal position ++ ": 0x" ++ hexPadded 3 address

/-- The line that tells of a wait for a key. -/
def waitLine (register : Register) : String :=
  "Waiting for key into V" ++ hex register

/-- **The lines of the full report.** -/
def reportLines (machine : Machine) : List String :=
  ["Registers:"]
    ++ (List.finRange 16).map machine.registerLine
    ++ ["Address Register: 0x" ++ hexSigned 3 machine.index,
        "Program Counter: 0x" ++ hexSigned 3 machine.pc,
        "Stack Pointer: " ++ decimal machine.depth,
        "Stack:"]
    ++ machine.calls.zipIdx.map (fun call => callLine call.1 call.2)
    ++ ["Delay Timer: " ++ decimalSigned machine.delay,
        "Sound Timer: " ++ decimalSigned machine.sound]
    ++ (match machine.activity with
        | .running => []
        | .awaitingKey register => [waitLine register])
    ++ ["Current Instruction: " ++ machine.instructionText]

/-- The full report as one text. -/
def report (machine : Machine) : String :=
  "\n".intercalate machine.reportLines

/-- Two registers side by side, the first one with an even number. -/
def panelPair (machine : Machine) (pair : Fin 8) : String :=
  let left : Register := ⟨2 * pair, by omega⟩
  let right : Register := ⟨2 * pair + 1, by omega⟩
  "V" ++ hex left ++ " " ++ hexPadded 2 (machine.register left).toNat
    ++ "   V" ++ hex right ++ " " ++ hexPadded 2 (machine.register right).toNat

/-- **The lines of the panel.** -/
def panelLines (machine : Machine) : List String :=
  (List.finRange 8).map machine.panelPair
    ++ ["I  " ++ hexSigned 3 machine.index ++ "  PC " ++ hexSigned 3 machine.pc,
        "SP " ++ decimalPadded 2 machine.depth ++ "   DT " ++ hexSigned 2 machine.delay
          ++ " ST " ++ hexSigned 2 machine.sound,
        machine.instructionText]

end ChipEight.Machine
