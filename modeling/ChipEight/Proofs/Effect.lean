import ChipEight.Machine.Cycle
import Mathlib.Tactic.Common

/-!
# What an instruction leaves behind

`Console.execute` says what each instruction does.  This file turns it around: it says what becomes
of each part of the console, for all instructions at once.  Everything that is proved about runs of
the machine goes through these few statements, so that no other proof goes through the instructions
one by one.

* `Instruction.flow` — what an instruction does to the flow of control once it is carried out.
* `Instruction.fault?` — the fault that an instruction meets.  It depends on the machine and on the
  dialect, and on nothing else.
* `Console.fault?_of_execute` — an instruction that is refused leaves the console alone.  This holds
  of every console, also of one in which a host has written numbers of its own.
* `Console.skips` — whether an instruction passes over the one after it.
* `Console.Effect` — the parts of the console after an instruction, next to those before it.
* **`Console.execute_effect`** — every instruction that is carried out has this effect.
-/

namespace ChipEight

/-- What an instruction does to the flow of control once it is carried out. -/
def Instruction.flow : Instruction → Flow
  | .jump _ | .call _ | .jumpOffset _ | .awaitKey _ => .jumped
  | .draw _ _ _ => .drew
  | _ => .next

/-- The fault that an instruction meets on a machine, if it meets one. -/
def Instruction.fault? (dialect : Dialect) (machine : Machine) (instruction : Instruction) :
    Option Fault :=
  match instruction with
  | .ret => if machine.depth = 0 then some { kind := .illegalReturn } else none
  | .call _ => if stackSize ≤ machine.depth then some { kind := .stackFull } else none
  | .draw _ y height =>
    let row := (machine.register y).toNat % Screen.height
    let count := Sprite.visibleRows dialect.clipsSprites row height
    if memorySize < machine.index + count then
      some { kind := .illegalAddress (machine.index + count - 1) }
    else none
  | .skipIfKey x | .skipUnlessKey x =>
    if 16 ≤ (machine.register x).toNat then
      some (.notAKey instruction.word x (machine.register x))
    else none
  | .decimal _ =>
    if memorySize < machine.index + 3 then some { kind := .illegalAddress machine.index } else none
  | .store x | .load x =>
    if memorySize ≤ machine.index + x.val then
      some { kind := .illegalAddress (machine.index + x.val) }
    else none
  | _ => none

namespace Console

variable {setup : Setup} {console left : Console} {instruction : Instruction}
  {flow : Flow} {trace : Option Trace} {fault : Fault}

/-! ## The common ends once more

Two of the common ends decide something before they go on.  Here the decision is moved into the part
that it concerns.
-/

lemma skipIf_eq (console : Console) (condition : Bool) :
    console.skipIf condition =
      console.go { console.machine with
        pc := if condition then console.machine.pc + 2 else console.machine.pc } := by
  cases condition <;> rfl

lemma putLogic_eq (setup : Setup) (console : Console) (x : Register) (result : UInt8) :
    putLogic setup console x result =
      console.go { console.machine with
        registers :=
          if setup.dialect.logicClearsFlag then
            ((console.machine.setRegister x result).setRegister Register.flag 0).registers
          else (console.machine.setRegister x result).registers } := by
  rw [putLogic]
  split <;> rfl

/-- Whether the key that a register names is held; a value that names no key is not. -/
def holdsKey (console : Console) (x : Register) : Bool :=
  if h : (console.machine.register x).toNat < 16 then
    console.keypad.isDown ⟨(console.machine.register x).toNat, h⟩
  else false

lemma skipOnKey_eq (console : Console) (word : Word) (x : Register) (held : Bool) :
    console.skipOnKey word x held =
      if (console.machine.register x).toNat < 16 then
        console.skipIf (console.holdsKey x == held)
      else .faulted (.notAKey word x (console.machine.register x)) console := by
  simp only [skipOnKey, holdsKey]
  split <;> simp_all

/-! ## Refused instructions -/

/-- A fault is what an instruction meets before it changes anything. -/
theorem execute_of_fault? (h : instruction.fault? setup.dialect console.machine = some fault) :
    console.execute setup instruction = .faulted fault console := by
  cases instruction
  all_goals
    simp only [Instruction.fault?, Option.ite_none_right_eq_some, Option.some.injEq,
      reduceCtorEq] at h
  -- only the instructions that can be refused are left
  all_goals obtain ⟨htest, rfl⟩ := h
  case skipIfKey x | skipUnlessKey x => rw [execute, skipOnKey_eq, if_neg (by omega)]
  case call target => rw [execute, dif_neg (by omega)]
  all_goals exact if_pos htest

/-- **An instruction that is refused has met its fault and leaves the console alone.**  Eight
instructions can be refused, and each of them tests before it writes. -/
theorem fault?_of_execute (h : console.execute setup instruction = .faulted fault left) :
    instruction.fault? setup.dialect console.machine = some fault ∧ left = console := by
  cases instruction
  case skipIfKey x | skipUnlessKey x =>
    rw [execute, skipOnKey_eq] at h
    split at h
    · rw [skipIf_eq] at h
      cases h
    · rename_i hbig
      cases h
      exact ⟨if_pos (by omega), rfl⟩
  case call target =>
    simp only [execute] at h
    split at h
    · split at h <;> cases h
    · rename_i hfull
      cases h
      exact ⟨if_pos (by omega), rfl⟩
  case ret =>
    simp only [execute] at h
    split at h
    · rename_i hnone
      cases h
      exact ⟨if_pos hnone, rfl⟩
    · split at h <;> cases h
  case draw x y height =>
    simp only [execute] at h
    split at h
    · rename_i hbeyond
      cases h
      exact ⟨if_pos hbeyond, rfl⟩
    · split at h <;> cases h
  case decimal x | store x | load x =>
    simp only [execute] at h
    split at h
    · rename_i hbeyond
      cases h
      exact ⟨if_pos hbeyond, rfl⟩
    · split at h <;> cases h
  case readDelay x =>
    simp only [execute] at h
    split at h <;> cases h
  all_goals
    simp only [execute, put, putFlagged, putLogic_eq, skipIf_eq, go] at h
    cases h

/-! ## Instructions that are carried out -/

/-- Whether an instruction passes over the one after it. -/
def skips (console : Console) : Instruction → Bool
  | .skipIfByte x byte => console.machine.register x == byte
  | .skipUnlessByte x byte => console.machine.register x != byte
  | .skipIfSame x y => console.machine.register x == console.machine.register y
  | .skipUnlessSame x y => console.machine.register x != console.machine.register y
  | .skipIfKey x => console.holdsKey x
  | .skipUnlessKey x => !console.holdsKey x
  | _ => false

/-- Where an instruction leaves the program counter, before it moves past the instruction. -/
def pcAfter (console : Console) (instruction : Instruction) : Int :=
  let machine := console.machine
  match instruction with
  | .ret => (machine.stack[machine.depth - 1]?.getD 0 : Nat)
  | .jump target => target.val
  | .call target => target.val
  | .jumpOffset base => base.val + (machine.register Register.zero).toNat
  | _ => if console.skips instruction then machine.pc + 2 else machine.pc

/-- A return goes to the topmost place of the stack. -/
lemma pcAfter_ret (htop : console.machine.depth - 1 < stackSize) :
    console.pcAfter .ret = console.machine.stack[console.machine.depth - 1] := by
  simp only [pcAfter, Vector.getElem?_eq_getElem htop, Option.getD_some]

/-- What an instruction leaves in I. -/
def indexLeft (setup : Setup) (console : Console) (instruction : Instruction) : Int :=
  let machine := console.machine
  match instruction with
  | .setIndex target => target.val
  | .addIndex x => (machine.index + (machine.register x).toNat) % memorySize
  | .glyph x => ((fontStart + (machine.register x).toNat * glyphSize) % memorySize : Nat)
  | .store x => console.indexAfter setup x
  | .load x => console.indexAfter setup x
  | _ => machine.index

/-- What an instruction leaves in the delay timer, before it is counted down. -/
def delayLeft (console : Console) : Instruction → Int
  | .setDelay x => (console.machine.register x).toNat
  | _ => console.machine.delay

/-- What an instruction leaves in the sound timer, before it is counted down. -/
def soundLeft (console : Console) : Instruction → Int
  | .setSound x => (console.machine.register x).toNat
  | _ => console.machine.sound

/-- **What an instruction that was carried out has done,** part by part. -/
structure Effect (setup : Setup) (console : Console) (instruction : Instruction) (flow : Flow)
    (left : Console) : Prop where
  flow_eq : flow = instruction.flow
  pc_eq : left.machine.pc = console.pcAfter instruction
  index_eq : left.machine.index = console.indexLeft setup instruction
  delay_eq : left.machine.delay = console.delayLeft instruction
  sound_eq : left.machine.sound = console.soundLeft instruction
  called : ∀ target, instruction = .call target →
    ∃ h : console.machine.depth < stackSize,
      left.machine.stack =
        console.machine.stack.set console.machine.depth console.machine.pc.toNat h ∧
      left.machine.depth = console.machine.depth + 1
  returned : instruction = .ret →
    0 < console.machine.depth ∧ console.machine.depth ≤ stackSize ∧
      left.machine.stack = console.machine.stack ∧
      left.machine.depth = console.machine.depth - 1
  stacked : (∀ target, instruction ≠ .call target) → instruction ≠ .ret →
    left.machine.stack = console.machine.stack ∧ left.machine.depth = console.machine.depth
  awaited : ∀ x, instruction = .awaitKey x →
    left.machine.activity = .awaitingKey x ∧ left.keypad = console.keypad.takeTyped.2
  running : (∀ x, instruction ≠ .awaitKey x) →
    left.machine.activity = console.machine.activity ∧ left.keypad = console.keypad
  memory_eq : (∀ x, instruction ≠ .decimal x) → (∀ x, instruction ≠ .store x) →
    left.machine.memory = console.machine.memory

/-- The effect of an instruction that neither calls nor returns nor waits. -/
lemma Effect.plain (hcall : ∀ target, instruction ≠ .call target) (hret : instruction ≠ .ret)
    (hwait : ∀ x, instruction ≠ .awaitKey x) (hflow : flow = instruction.flow)
    (hpc : left.machine.pc = console.pcAfter instruction)
    (hindex : left.machine.index = console.indexLeft setup instruction)
    (hdelay : left.machine.delay = console.delayLeft instruction)
    (hsound : left.machine.sound = console.soundLeft instruction)
    (hstack : left.machine.stack = console.machine.stack ∧
      left.machine.depth = console.machine.depth)
    (hactivity : left.machine.activity = console.machine.activity ∧ left.keypad = console.keypad)
    (hmemory : (∀ x, instruction ≠ .decimal x) → (∀ x, instruction ≠ .store x) →
      left.machine.memory = console.machine.memory) :
    Effect setup console instruction flow left where
  flow_eq := hflow
  pc_eq := hpc
  index_eq := hindex
  delay_eq := hdelay
  sound_eq := hsound
  called := fun target h => absurd h (hcall target)
  returned := fun h => absurd h hret
  stacked := fun _ _ => hstack
  awaited := fun x h => absurd h (hwait x)
  running := fun _ => hactivity
  memory_eq := hmemory

/-- **Every instruction that is carried out has its effect.** -/
theorem execute_effect (h : console.execute setup instruction = .ran flow trace left) :
    Effect setup console instruction flow left := by
  cases instruction
  case ret =>
    simp only [execute, go] at h
    split at h
    · cases h
    · rename_i hdepth
      split at h
      · cases h
      · rename_i address htop
        cases h
        have hlt : console.machine.depth - 1 < stackSize :=
          (Vector.getElem?_eq_some_iff.mp htop).1
        exact {
          flow_eq := rfl
          pc_eq := by simp only [pcAfter, htop, Option.getD_some]
          index_eq := rfl
          delay_eq := rfl
          sound_eq := rfl
          called := nofun
          returned := fun _ => ⟨by omega, by omega, rfl, rfl⟩
          stacked := fun _ hret => absurd rfl hret
          awaited := nofun
          running := fun _ => ⟨rfl, rfl⟩
          memory_eq := fun _ _ => rfl }
  case call target =>
    simp only [execute] at h
    split at h
    · rename_i hdepth
      split at h
      · cases h
      · cases h
        exact {
          flow_eq := rfl
          pc_eq := rfl
          index_eq := rfl
          delay_eq := rfl
          sound_eq := rfl
          called := fun _ _ => ⟨hdepth, rfl, rfl⟩
          returned := nofun
          stacked := fun hcall _ => absurd rfl (hcall target)
          awaited := nofun
          running := fun _ => ⟨rfl, rfl⟩
          memory_eq := fun _ _ => rfl }
    · cases h
  case awaitKey x =>
    cases h
    exact {
      flow_eq := rfl
      pc_eq := rfl
      index_eq := rfl
      delay_eq := rfl
      sound_eq := rfl
      called := nofun
      returned := nofun
      stacked := fun _ _ => ⟨rfl, rfl⟩
      awaited := by
        rintro _ ⟨⟩
        exact ⟨rfl, rfl⟩
      running := fun hwait => absurd rfl (hwait x)
      memory_eq := fun _ _ => rfl }
  case skipIfKey x | skipUnlessKey x =>
    simp only [execute, skipOnKey_eq, skipIf_eq, go] at h
    split at h
    · cases h
      refine .plain nofun nofun nofun rfl ?_ rfl rfl rfl ⟨rfl, rfl⟩ ⟨rfl, rfl⟩ fun _ _ => rfl
      cases hkey : console.holdsKey x <;> simp [pcAfter, skips, hkey]
    · cases h
  case draw x y height =>
    simp only [execute] at h
    split at h
    · cases h
    · split at h
      · cases h
      · cases h
        exact .plain nofun nofun nofun rfl rfl rfl rfl rfl ⟨rfl, rfl⟩ ⟨rfl, rfl⟩ fun _ _ => rfl
  case readDelay x =>
    simp only [execute, put, go] at h
    split at h
    · cases h
    · cases h
      exact .plain nofun nofun nofun rfl rfl rfl rfl rfl ⟨rfl, rfl⟩ ⟨rfl, rfl⟩ fun _ _ => rfl
  case decimal x =>
    simp only [execute, go] at h
    split at h
    · cases h
    · split at h
      · cases h
      · cases h
        exact .plain nofun nofun nofun rfl rfl rfl rfl rfl ⟨rfl, rfl⟩ ⟨rfl, rfl⟩
          fun hdecimal _ => absurd rfl (hdecimal x)
  case store x =>
    simp only [execute, go] at h
    split at h
    · cases h
    · split at h
      · cases h
      · cases h
        exact .plain nofun nofun nofun rfl rfl rfl rfl rfl ⟨rfl, rfl⟩ ⟨rfl, rfl⟩
          fun _ hstore => absurd rfl (hstore x)
  case load x =>
    simp only [execute, go] at h
    split at h
    · cases h
    · split at h
      · cases h
      · cases h
        exact .plain nofun nofun nofun rfl rfl rfl rfl rfl ⟨rfl, rfl⟩ ⟨rfl, rfl⟩ fun _ _ => rfl
  -- what is left decides nothing about how it ends
  all_goals
    simp only [execute, put, putFlagged, putLogic_eq, skipIf_eq, go, Machine.setRegister] at h
    cases h
    exact .plain nofun nofun nofun rfl rfl rfl rfl rfl ⟨rfl, rfl⟩ ⟨rfl, rfl⟩ fun _ _ => rfl

end Console

end ChipEight
