import ChipEight.Dialect
import ChipEight.Fault
import ChipEight.Instruction.Decode
import ChipEight.Keypad
import ChipEight.Machine.Basic
import ChipEight.Machine.Trace
import ChipEight.Screen.Sprite

/-!
# The machine cycle

One cycle carries out one instruction, or answers a wait for a key, or does nothing because nothing
was typed yet.

* `Setup` — what a machine is built with: its dialect and its source of random bytes.
* `Console` — the machine together with what its instructions can reach outside it: the keypad and
  the number of random bytes taken.
* `Outcome` — how a cycle ended.  In every case it holds the console that the cycle left behind.
* `Console.execute` — what each instruction does.
* **`Console.step`** — one cycle.
-/

namespace ChipEight

/-- What a machine is built with. -/
structure Setup where
  dialect : Dialect := {}
  /-- The random bytes, in the order in which they are handed out. -/
  random : Nat → UInt8 := fun _ => 0

/-- The machine and what its instructions reach outside it. -/
structure Console where
  machine : Machine := Machine.powerOn
  keypad : Keypad := {}
  /-- How many random bytes were taken. -/
  draws : Nat := 0
  deriving DecidableEq

/-- What a cycle did to the flow of control. -/
inductive Flow where
  /-- The program counter moved on. -/
  | next
  /-- The instruction itself set the program counter. -/
  | jumped
  /-- Like `next`, and there is a picture to show. -/
  | drew
  /-- A key is awaited and none was typed: nothing happened. -/
  | waiting
  deriving DecidableEq

/-- How a cycle ended, with the console as it was left behind. -/
inductive Outcome where
  /-- The cycle was carried out. -/
  | ran (flow : Flow) (trace : Option Trace) (left : Console)
  /-- The cycle was refused. -/
  | faulted (fault : Fault) (left : Console)
  /-- The cycle could not go on, since a number that a host has written does not fit. -/
  | stuck (misfit : Misfit) (left : Console)
  deriving DecidableEq

namespace Outcome

/-- The console that a cycle left behind. -/
def left : Outcome → Console
  | .ran _ _ left => left
  | .faulted _ left => left
  | .stuck _ left => left

/-- The end of every cycle that was carried out: the program counter moves past the instruction
unless the instruction set it, and the timers count down. -/
def complete : Outcome → Outcome
  | .ran flow trace console =>
    let machine := if flow = .jumped then console.machine else console.machine.advance
    .ran flow trace { console with machine := machine.countDown }
  | .faulted fault console => .faulted fault console
  | .stuck misfit console => .stuck misfit console

end Outcome

namespace Console

/-! ## Common ends of an instruction -/

/-- The instruction changed the machine and the next one follows. -/
def go (console : Console) (machine : Machine) (trace : Option Trace := none) : Outcome :=
  .ran .next trace { console with machine }

/-- The instruction changed a register and the next one follows. -/
def put (console : Console) (register : Register) (byte : UInt8) : Outcome :=
  console.go (console.machine.setRegister register byte)

/-- A result goes to Vx and then a flag to VF, so that VF as Vx ends up as the flag. -/
def putFlagged (console : Console) (x : Register) (result flag : UInt8) : Outcome :=
  console.go ((console.machine.setRegister x result).setRegister Register.flag flag)

/-- A bitwise result goes to Vx; VF is then cleared if the dialect says so. -/
def putLogic (setup : Setup) (console : Console) (x : Register) (result : UInt8) : Outcome :=
  let machine := console.machine.setRegister x result
  if setup.dialect.logicClearsFlag then console.go (machine.setRegister Register.flag 0)
  else console.go machine

/-- The next instruction is skipped on a condition. -/
def skipIf (console : Console) (condition : Bool) : Outcome :=
  console.go
    (if condition then { console.machine with pc := console.machine.pc + 2 } else console.machine)

/-- A skip on whether the key in a register is held; a fault if the value names no key. -/
def skipOnKey (console : Console) (word : Word) (x : Register) (held : Bool) : Outcome :=
  let value := console.machine.register x
  if h : value.toNat < 16 then
    console.skipIf (console.keypad.isDown ⟨value.toNat, h⟩ == held)
  else .faulted (.notAKey word x value) console

/-- The value that a shift works on. -/
def shiftSource (setup : Setup) (console : Console) (x y : Register) : UInt8 :=
  console.machine.register (if setup.dialect.shiftsFromY then y else x)

/-- The index behind a run of registers moved from or to memory. -/
def indexAfter (setup : Setup) (console : Console) (x : Register) : Int :=
  if setup.dialect.advancesIndex then (console.machine.index + x.val + 1) % memorySize
  else console.machine.index

/-! ## The instructions -/

/-- **What an instruction does,** up to the end that all cycles share.  Whatever is a fault is
tested before anything is changed.  Registers and memory are copied in slices, and a copy that would
change the size of either is not carried out. -/
def execute (setup : Setup) (instruction : Instruction) (console : Console) : Outcome :=
  let machine := console.machine
  let v := machine.register
  match instruction with
  | .clear => console.go { machine with screen := Screen.blank }
  | .ret =>
    if machine.depth = 0 then .faulted { kind := .illegalReturn } console
    else
      let machine := { machine with depth := machine.depth - 1 }
      match (machine.stack[machine.depth]? : Option Nat) with
      | none => .stuck .noPlace { console with machine }
      | some address => console.go { machine with pc := address } (some (.returned address))
  | .jump target => .ran .jumped none { console with machine := { machine with pc := target.val } }
  | .call target =>
    if h : machine.depth < stackSize then
      if machine.pc < 0 then .stuck .noAddress console
      else
        let machine := { machine with
          stack := machine.stack.set machine.depth machine.pc.toNat
          depth := machine.depth + 1
          pc := target.val }
        .ran .jumped (some (.called target)) { console with machine }
    else .faulted { kind := .stackFull } console
  | .skipIfByte x byte => console.skipIf (v x == byte)
  | .skipUnlessByte x byte => console.skipIf (v x != byte)
  | .skipIfSame x y => console.skipIf (v x == v y)
  | .skipUnlessSame x y => console.skipIf (v x != v y)
  | .set x byte => console.put x byte
  | .addByte x byte => console.put x (v x + byte)
  | .copy x y => console.put x (v y)
  | .or x y => console.putLogic setup x (v x ||| v y)
  | .and x y => console.putLogic setup x (v x &&& v y)
  | .xor x y => console.putLogic setup x (v x ^^^ v y)
  | .add x y =>
    let carry := if 256 ≤ (v x).toNat + (v y).toNat then 1 else 0
    let machine := (machine.setRegister x (v x + v y)).setRegister Register.flag carry
    console.go machine (some (.added y x (machine.register x) (machine.register Register.flag)))
  | .sub x y => console.putFlagged x (v x - v y) (if v y ≤ v x then 1 else 0)
  | .subFrom x y => console.putFlagged x (v y - v x) (if v x ≤ v y then 1 else 0)
  | .shiftRight x y =>
    let source := console.shiftSource setup x y
    console.putFlagged x (source >>> 1) (source &&& 1)
  | .shiftLeft x y =>
    let source := console.shiftSource setup x y
    console.putFlagged x (source <<< 1) (source >>> 7)
  | .setIndex target => console.go { machine with index := target.val }
  | .jumpOffset base =>
    let machine := { machine with pc := base.val + (v Register.zero).toNat }
    .ran .jumped none { console with machine }
  | .random x mask =>
    let machine := machine.setRegister x (setup.random console.draws &&& mask)
    .ran .next none { console with machine, draws := console.draws + 1 }
  | .draw x y spriteHeight =>
    let clips := setup.dialect.clipsSprites
    let column := (v x).toNat % Screen.width
    let row := (v y).toNat % Screen.height
    let count := Sprite.visibleRows clips row spriteHeight
    if memorySize < machine.index + count then
      .faulted { kind := .illegalAddress (machine.index + count - 1) } console
    else
      match machine.memory.bytes? machine.index count with
      | none => .stuck .noPlace { console with machine := machine.setRegister Register.flag 0 }
      | some bits =>
        let drawn := machine.screen.draw (Sprite.pixels clips column row bits)
        let collision := if drawn.2 then 1 else 0
        let machine := { machine.setRegister Register.flag collision with screen := drawn.1 }
        .ran .drew (some (.drew column row collision)) { console with machine }
  | .skipIfKey x => console.skipOnKey instruction.word x true
  | .skipUnlessKey x => console.skipOnKey instruction.word x false
  | .readDelay x =>
    match Numbering.byte? machine.delay with
    | none => .stuck .noByte console
    | some byte => console.put x byte
  | .awaitKey x =>
    .ran .jumped (some (.awaiting x))
      { console with
        machine := { machine with activity := .awaitingKey x }
        keypad := console.keypad.takeTyped.2 }
  | .setDelay x => console.go { machine with delay := (v x).toNat }
  | .setSound x => console.go { machine with sound := (v x).toNat }
  | .addIndex x => console.go { machine with index := (machine.index + (v x).toNat) % memorySize }
  | .glyph x =>
    console.go { machine with
      index := ((fontStart + (v x).toNat * glyphSize) % memorySize : Nat) }
  | .decimal x =>
    if memorySize < machine.index + 3 then
      .faulted { kind := .illegalAddress machine.index } console
    else
      match machine.memory.setBytes? machine.index [v x / 100, v x / 10 % 10, v x % 10] with
      | none => .stuck .noPlace console
      | some memory => console.go { machine with memory }
  | .store x =>
    if memorySize ≤ machine.index + x.val then
      .faulted { kind := .illegalAddress (machine.index + x.val) } console
    else
      let bytes := machine.registers.slice 0 (x.val + 1)
      match machine.memory.assign? machine.index (machine.index + x.val + 1) bytes with
      | none => .stuck .noPlace console
      | some memory => console.go { machine with memory, index := console.indexAfter setup x }
  | .load x =>
    if memorySize ≤ machine.index + x.val then
      .faulted { kind := .illegalAddress (machine.index + x.val) } console
    else
      let bytes := machine.memory.slice machine.index (machine.index + x.val + 1)
      match machine.registers.assign? 0 (x.val + 1) bytes with
      | none => .stuck .noPlace console
      | some registers =>
        console.go { machine with registers, index := console.indexAfter setup x }

/-! ## The cycle -/

/-- The answer to a wait: the typed number, if it is a byte, goes to the register and the machine
runs again. -/
def answer (console : Console) (register : Register) (number : Int) : Outcome :=
  let console := { console with keypad := console.keypad.takeTyped.2 }
  match Numbering.byte? number with
  | none => .stuck .noByte console
  | some byte =>
    .ran .next (some (.keyStored byte register))
      { console with
        machine := { console.machine.setRegister register byte with activity := .running } }

/-- **One cycle.** -/
def step (setup : Setup) (console : Console) : Outcome :=
  match console.machine.activity with
  | .awaitingKey register =>
    match console.keypad.takeTyped.1 with
    | none => .ran .waiting none console
    | some number => (console.answer register number).complete
  | .running =>
    match console.machine.word? with
    | none =>
      if console.machine.isLost then .stuck .noPlace console
      else .faulted (.outsideMemory console.machine.pc) console
    | some word =>
      match word.decode with
      | none => .faulted { kind := .unknownWord word.toNat } console
      | some instruction => (console.execute setup instruction).complete

end Console

end ChipEight
