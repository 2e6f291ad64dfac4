import ChipEight.Cells
import ChipEight.Instruction.Basic
import ChipEight.Misfit
import ChipEight.Screen
import ChipEight.Text.Numeral

/-!
# The machine

The emulated machine: memory, registers, call stack, timers, screen, and whether it runs or waits
for a key.

* `Machine.powerOn` — everything zero, the font at the bottom of memory, the program counter at the
  place where programs go.
* `Machine.load` — a program put in its place, or refused for its size.
* `Machine.word?` — the word at the program counter, if memory has one there.
* `Machine.write`, `Machine.writeAll` — state written directly, as a host can do.
-/

namespace ChipEight

/-- Bytes of memory. -/
abbrev memorySize : Nat := 4096

/-- Where programs are put and begin. -/
abbrev programStart : Nat := 0x200

/-- The largest program that memory has room for. -/
abbrev programLimit : Nat := memorySize - programStart

/-- Places for return addresses. -/
abbrev stackSize : Nat := 96

/-- Bytes of a glyph of the font. -/
abbrev glyphSize : Nat := 5

/-- Where the font lies. -/
abbrev fontStart : Nat := 0

/-- The glyphs of the sixteen digits, five rows each. -/
def font : List UInt8 :=
  [0xF0, 0x90, 0x90, 0x90, 0xF0,
   0x20, 0x60, 0x20, 0x20, 0x70,
   0xF0, 0x10, 0xF0, 0x80, 0xF0,
   0xF0, 0x10, 0xF0, 0x10, 0xF0,
   0x90, 0x90, 0xF0, 0x10, 0x10,
   0xF0, 0x80, 0xF0, 0x10, 0xF0,
   0xF0, 0x80, 0xF0, 0x90, 0xF0,
   0xF0, 0x10, 0x20, 0x40, 0x40,
   0xF0, 0x90, 0xF0, 0x90, 0xF0,
   0xF0, 0x90, 0xF0, 0x10, 0xF0,
   0xF0, 0x90, 0xF0, 0x90, 0x90,
   0xE0, 0x90, 0xE0, 0x90, 0xE0,
   0xF0, 0x80, 0x80, 0x80, 0xF0,
   0xE0, 0x90, 0x90, 0x90, 0xE0,
   0xF0, 0x80, 0xF0, 0x80, 0xF0,
   0xF0, 0x80, 0xF0, 0x80, 0x80]

/-- What a machine is doing between cycles. -/
inductive Activity where
  /-- The next cycle carries out the instruction at the program counter. -/
  | running
  /-- Nothing goes on until a digit is typed, which then goes to the register. -/
  | awaitingKey (register : Register)
  deriving DecidableEq

/-- **The emulated state.** -/
structure Machine where
  memory : Cells memorySize
  /-- V0 to VF. -/
  registers : Cells 16
  /-- I, which points into memory.  Below zero it counts from the end. -/
  index : Int
  /-- The program counter.  Below zero it counts from the end of memory. -/
  pc : Int
  /-- The places for return addresses, outermost call first. -/
  stack : Vector Nat stackSize
  /-- How many of them are in use. -/
  depth : Nat
  delay : Int
  sound : Int
  screen : Screen
  activity : Activity
  deriving DecidableEq

namespace Machine

/-- **The machine as it is switched on.** -/
def powerOn : Machine where
  memory := Cells.overwrite (Vector.replicate memorySize 0) fontStart font (by decide)
  registers := Vector.replicate 16 0
  index := 0
  pc := programStart
  stack := Vector.replicate stackSize 0
  depth := 0
  delay := 0
  sound := 0
  screen := Screen.blank
  activity := .running

/-- Memory has room for every program up to the limit. -/
theorem room_of_le_limit {size : Nat} (h : size ≤ programLimit) :
    programStart + size ≤ memorySize :=
  Nat.add_le_of_le_sub' (by decide) h

/-- The machine with a program put in its place and nothing else changed; none if the program is too
large. -/
def load (machine : Machine) (program : List UInt8) : Option Machine :=
  if h : program.length ≤ programLimit then
    some { machine with
      memory := machine.memory.overwrite programStart program (room_of_le_limit h) }
  else none

/-- A program up to the limit is put in its place. -/
theorem load_of_le_limit (machine : Machine) {program : List UInt8}
    (h : program.length ≤ programLimit) :
    machine.load program = some { machine with
      memory := machine.memory.overwrite programStart program (room_of_le_limit h) } :=
  dif_pos h

/-- A program beyond the limit is refused. -/
theorem load_of_limit_lt (machine : Machine) {program : List UInt8}
    (h : programLimit < program.length) : machine.load program = none :=
  dif_neg (Nat.not_le.mpr h)

/-- The text of a program that is too large for memory. -/
def tooLargeText (size : Nat) : String :=
  "program is " ++ Numeral.decimal size ++ " bytes, at most " ++ Numeral.decimal programLimit
    ++ " fit in memory"

/-- Whether the machine waits for a key. -/
def isWaiting (machine : Machine) : Bool :=
  match machine.activity with
  | .running => false
  | .awaitingKey _ => true

/-- The word at the program counter; none where it would reach beyond memory. -/
def word? (machine : Machine) : Option Word :=
  match machine.memory.byte? machine.pc, machine.memory.byte? (machine.pc + 1) with
  | some high, some low => some (Word.ofBytes high low)
  | _, _ => none

/-- Whether the program counter counts back beyond the first byte of memory. -/
def isLost (machine : Machine) : Bool :=
  machine.pc < -memorySize

/-- The return addresses in use, outermost call first. -/
def calls (machine : Machine) : List Nat :=
  machine.stack.toList.take machine.depth

/-- The byte in a register. -/
def register (machine : Machine) (register : Register) : UInt8 :=
  machine.registers[register]

/-- The machine with a register changed. -/
def setRegister (machine : Machine) (register : Register) (byte : UInt8) : Machine :=
  { machine with registers := machine.registers.set register byte }

/-- The program counter moved past one instruction, within 16 bits. -/
def advance (machine : Machine) : Machine :=
  { machine with pc := (machine.pc + 2) % 65536 }

/-- Both timers down by one, as far as zero. -/
def countDown (machine : Machine) : Machine :=
  { machine with
    delay := if 0 < machine.delay then machine.delay - 1 else machine.delay
    sound := if 0 < machine.sound then machine.sound - 1 else machine.sound }

/-! ## Direct writes -/

/-- A piece of state that is written directly.  Places are given by number. -/
inductive Write where
  | register (number value : Int)
  | memory (start : Int) (bytes : List UInt8)
  /-- A pixel goes on. -/
  | pixel (column row : Int)
  | index (value : Int)
  | pc (value : Int)
  | delay (value : Int)
  | sound (value : Int)

/-- The machine with a piece of state written over.  Only registers, which hold bytes, memory, which
keeps its size, and pixels can refuse. -/
def write (machine : Machine) : Write → Except Misfit Machine
  | .register number value =>
    match Numbering.byte? value, Numbering.place? 16 number with
    | none, _ => .error .noByte
    | some _, none => .error .noPlace
    | some byte, some register => .ok (machine.setRegister register byte)
  | .memory start bytes =>
    match machine.memory.assign? start (start + bytes.length) bytes with
    | none => .error .noPlace
    | some memory => .ok { machine with memory }
  | .pixel column row =>
    match Numbering.place? (Screen.width * Screen.height) (row * Screen.width + column) with
    | none => .error .noPlace
    | some pixel => .ok { machine with screen := machine.screen.light pixel }
  | .index value => .ok { machine with index := value }
  | .pc value => .ok { machine with pc := value }
  | .delay value => .ok { machine with delay := value }
  | .sound value => .ok { machine with sound := value }

/-- The machine with pieces of state written over up to the first that is refused, and why that one
was. -/
def writeAll : List Write → Machine → Machine × Option Misfit
  | [], machine => (machine, none)
  | piece :: rest, machine =>
    match machine.write piece with
    | .ok machine => writeAll rest machine
    | .error misfit => (machine, some misfit)

end Machine

end ChipEight
