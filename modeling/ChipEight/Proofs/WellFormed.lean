import ChipEight.Proofs.Effect

/-!
# Well-formed machines

The state of a machine is made of numbers, and a host may write any numbers it likes there.  A
machine that is left to itself keeps within bounds, and this file says which.

* `Machine.WellFormed`, `Console.WellFormed` — every number within its bounds.
* `Machine.PointsAt` — the word that the program counter points at, most significant byte first.
* `Machine.assign?_memory`, `Machine.assign?_registers` — the copies between registers and memory
  fit where there is room for them.
* `Machine.fault?` — the fault of the next cycle of a running machine.
* `Console.execute_ran` — on a well-formed machine an instruction that meets no fault is carried
  out: no number is ever a misfit.
* **`Console.Cycle`, `Console.cycle_step`** — the four ways a cycle can go.  Everything that a run
  keeps is proved along these four.
-/

namespace ChipEight

/-! ## Bounds -/

/-- **Every number in the state of the machine is within its bounds.**  The sizes of memory, of the
register file, of the stack and of the screen are part of their types; that whatever is written
there keeps to them is the matter of `Console.KeepsSizes`. -/
structure Machine.WellFormed (machine : Machine) : Prop where
  index_nonneg : 0 ≤ machine.index
  index_le : machine.index ≤ 0xFFF
  depth_le : machine.depth ≤ stackSize
  calls_le : ∀ position : Fin stackSize, position < machine.depth → machine.stack[position] ≤ 0xFFE
  delay_nonneg : 0 ≤ machine.delay
  delay_le : machine.delay ≤ 255
  sound_nonneg : 0 ≤ machine.sound
  sound_le : machine.sound ≤ 255
  pc_nonneg : 0 ≤ machine.pc
  pc_le : machine.pc ≤ 0xFFFF
  /-- A machine that waits stands at a place where a word can be read. -/
  pc_of_waiting : ∀ register, machine.activity = .awaitingKey register → machine.pc ≤ 0xFFE

/-- A well-formed machine, with a keypad on which only digits were typed. -/
structure Console.WellFormed (console : Console) : Prop where
  machine : console.machine.WellFormed
  typed : ∀ number ∈ console.keypad.typed, 0 ≤ number ∧ number < 16

namespace Machine

variable {machine : Machine} {word : Word}

/-- A well-formed machine has I as a place of memory. -/
lemma WellFormed.index_eq (wf : machine.WellFormed) :
    ∃ start : Nat, start < memorySize ∧ machine.index = start := by
  have hnonneg := wf.index_nonneg
  have hle := wf.index_le
  exact ⟨machine.index.toNat, by simp only [memorySize]; omega, by omega⟩

/-- The machine as it is switched on is well-formed. -/
theorem wellFormed_powerOn : powerOn.WellFormed where
  index_nonneg := by decide
  index_le := by decide
  depth_le := by decide
  calls_le := fun _ h => absurd h (Nat.not_lt_zero _)
  delay_nonneg := by decide
  delay_le := by decide
  sound_nonneg := by decide
  sound_le := by decide
  pc_nonneg := by decide
  pc_le := by decide
  pc_of_waiting := nofun

/-! ## The word at the program counter -/

/-- **The program counter points at a word:** both bytes lie in memory, the high one first. -/
def PointsAt (machine : Machine) (word : Word) : Prop :=
  ∃ (address : Nat) (h : address + 1 < memorySize), machine.pc = address ∧
    word.toNat = machine.memory[address].toNat * 256 + machine.memory[address + 1].toNat

/-- A word made of two bytes has their value. -/
lemma toNat_ofBytes (high low : UInt8) :
    (Word.ofBytes high low).toNat = high.toNat * 256 + low.toNat := by
  have hhigh := high.toNat_lt
  have hlow := low.toNat_lt
  simp only [Word.ofBytes, UInt16.toNat_ofNat']
  omega

/-- Where there is room for a word, the machine reads the word that is there. -/
lemma word?_of_room {address : Nat} (h : address + 1 < memorySize) (hpc : machine.pc = address) :
    machine.word? =
      some (Word.ofBytes machine.memory[address] machine.memory[address + 1]) := by
  have hhigh : machine.memory.byte? machine.pc = some machine.memory[address] := by
    rw [hpc, Cells.byte?, Numbering.place?_natCast (by omega)]
    rfl
  have hlow : machine.memory.byte? (machine.pc + 1) = some machine.memory[address + 1] := by
    rw [hpc, show ((address : Int) + 1) = ((address + 1 : Nat) : Int) by omega, Cells.byte?,
      Numbering.place?_natCast h]
    rfl
  rw [word?, hhigh, hlow]

/-- There is no word to read just where the program counter leaves no room for one. -/
theorem word?_eq_none_iff (hpc : 0 ≤ machine.pc) :
    machine.word? = none ↔ memorySize ≤ machine.pc + 1 := by
  constructor
  · intro h
    by_contra hroom
    have haddress : machine.pc = machine.pc.toNat := by omega
    rw [word?_of_room (by omega) haddress] at h
    cases h
  · intro hroom
    have hlow : machine.memory.byte? (machine.pc + 1) = none := by
      rw [Cells.byte?, Numbering.place?_eq_none_iff.mpr (Or.inl hroom)]
      rfl
    rw [word?, hlow]
    split
    · rename_i hnone
      cases hnone
    · rfl

/-- The machine reads a word just where it points at one. -/
theorem word?_eq_some_iff (hpc : 0 ≤ machine.pc) :
    machine.word? = some word ↔ machine.PointsAt word := by
  constructor
  · intro h
    have hroom : ¬ memorySize ≤ machine.pc + 1 := by
      rw [← word?_eq_none_iff hpc, h]
      exact nofun
    have haddress : machine.pc = machine.pc.toNat := by omega
    rw [word?_of_room (by omega) haddress] at h
    cases h
    exact ⟨_, by omega, haddress, toNat_ofBytes _ _⟩
  · rintro ⟨address, hroom, haddress, hword⟩
    rw [word?_of_room hroom haddress, Option.some.injEq, ← UInt16.toNat_inj, toNat_ofBytes, hword]

/-- A machine that points at a word has its program counter where there is room for one. -/
lemma PointsAt.pc_le (h : machine.PointsAt word) : 0 ≤ machine.pc ∧ machine.pc ≤ 0xFFE := by
  obtain ⟨address, hroom, haddress, -⟩ := h
  simp only [memorySize] at hroom
  omega

/-- A machine points at one word at most. -/
lemma PointsAt.unique {other : Word} (h : machine.PointsAt word) (hother : machine.PointsAt other) :
    word = other := by
  have hword := (word?_eq_some_iff h.pc_le.1).mpr h
  rw [(word?_eq_some_iff h.pc_le.1).mpr hother, Option.some.injEq] at hword
  exact hword.symm

/-- Which word a machine points at depends on its memory and its program counter alone. -/
lemma PointsAt.of_eq {other : Machine} (h : machine.PointsAt word)
    (hpc : other.pc = machine.pc) (hmemory : other.memory = machine.memory) :
    other.PointsAt word := by
  obtain ⟨address, hroom, haddress, hword⟩ := h
  exact ⟨address, hroom, hpc.trans haddress, by rw [hmemory, hword]⟩

/-! ## Copies between registers and memory -/

section Copies

variable {start : Nat} {x : Register}

/-- **A copy to memory fits where there is room for it:** the slice of memory from I on has a byte
for each register up to Vx. -/
lemma assign?_memory (hindex : machine.index = start) (room : start + x.val < memorySize) :
    machine.memory.assign? machine.index (machine.index + x.val + 1)
        (machine.registers.slice 0 (x.val + 1)) =
      some (machine.memory.write start (machine.registers.read 0 (x + 1))) := by
  have hcopy := @Cells.assign?_slice _ _ machine.memory machine.registers start 0 (x + 1)
    (by omega) (by omega)
  simpa only [hindex, Int.natCast_add, Int.natCast_one, Int.natCast_zero, Int.zero_add,
    Int.add_assoc] using hcopy

/-- **A copy from memory fits where there is room for it:** the registers up to Vx get a byte each
from the slice of memory. -/
lemma assign?_registers (hindex : machine.index = start) (room : start + x.val < memorySize) :
    machine.registers.assign? 0 (x.val + 1)
        (machine.memory.slice machine.index (machine.index + x.val + 1)) =
      some (machine.registers.write 0 (machine.memory.read start (x + 1))) := by
  have hcopy := @Cells.assign?_slice _ _ machine.registers machine.memory 0 start (x + 1)
    (by omega) (by omega)
  simpa only [hindex, Int.natCast_add, Int.natCast_one, Int.natCast_zero, Int.zero_add,
    Int.add_assoc] using hcopy

end Copies

/-! ## The fault of the next cycle -/

/-- The fault of the next cycle if the machine is running: no room for a word, a word that stands
for no instruction, or the fault of the instruction. -/
def fault? (dialect : Dialect) (machine : Machine) : Option Fault :=
  match machine.word? with
  | none => some (.outsideMemory machine.pc)
  | some word =>
    match word.decode with
    | none => some { kind := .unknownWord word.toNat }
    | some instruction => instruction.fault? dialect machine

end Machine

namespace Console

variable {setup : Setup} {console left : Console} {instruction : Instruction}
  {misfit : Misfit} {fault : Fault}

/-- On a well-formed machine every number is what an instruction needs. -/
lemma execute_ne_stuck (wf : console.machine.WellFormed) :
    console.execute setup instruction ≠ .stuck misfit left := by
  obtain ⟨start, -, hindex⟩ := wf.index_eq
  intro h
  cases instruction
  case ret =>
    have htop : console.machine.depth - 1 < stackSize := by
      have := wf.depth_le
      simp only [stackSize] at *
      omega
    simp only [execute, go, Vector.getElem?_eq_getElem htop] at h
    split at h <;> cases h
  case call target =>
    simp only [execute, if_neg (Int.not_lt.mpr wf.pc_nonneg)] at h
    split at h <;> cases h
  case draw x y height =>
    simp only [execute] at h
    split at h
    · cases h
    · rename_i hroom
      rw [hindex, Cells.bytes?_natCast _ (by omega)] at h
      cases h
  case readDelay x =>
    have hbyte : Numbering.byte? console.machine.delay =
        some (UInt8.ofNat console.machine.delay.toNat) := by
      have hle := wf.delay_le
      rw [Numbering.byte?, if_pos ⟨wf.delay_nonneg, by omega⟩]
    simp only [execute, hbyte, put, go] at h
    cases h
  case decimal x =>
    simp only [execute] at h
    split at h
    · cases h
    · rename_i hroom
      have hdigits (a b c : UInt8) : start + [a, b, c].length ≤ memorySize := by
        simp only [List.length_cons, List.length_nil]
        omega
      rw [hindex, Cells.setBytes?_natCast _ (hdigits _ _ _)] at h
      cases h
  case store x =>
    simp only [execute] at h
    split at h
    · cases h
    · rw [Machine.assign?_memory hindex (by omega)] at h
      cases h
  case load x =>
    simp only [execute] at h
    split at h
    · cases h
    · rw [Machine.assign?_registers hindex (by omega)] at h
      cases h
  case skipIfKey x | skipUnlessKey x =>
    simp only [execute, skipOnKey_eq, skipIf_eq, go] at h
    split at h <;> cases h
  all_goals
    simp only [execute, put, putFlagged, putLogic_eq, skipIf_eq, go] at h
    cases h

/-- **An instruction that meets no fault on a well-formed machine is carried out.** -/
theorem execute_ran (wf : console.machine.WellFormed)
    (h : instruction.fault? setup.dialect console.machine = none) :
    ∃ trace left, console.execute setup instruction = .ran instruction.flow trace left := by
  cases hout : console.execute setup instruction with
  | ran flow trace left =>
    rw [(execute_effect hout).flow_eq]
    exact ⟨trace, left, rfl⟩
  | faulted fault left =>
    rw [(fault?_of_execute hout).1] at h
    cases h
  | stuck misfit left => exact absurd hout (execute_ne_stuck wf)

/-! ## The ways of a cycle -/

/-- The console after a cycle that was carried out, given what it left behind before the end that
all cycles share. -/
def finish (flow : Flow) (console : Console) : Console :=
  { console with
    machine := { console.machine.countDown with
      pc := if flow = .jumped then console.machine.pc else (console.machine.pc + 2) % 65536 } }

lemma complete_ran (flow : Flow) (trace : Option Trace) (console : Console) :
    (Outcome.ran flow trace console).complete = .ran flow trace (finish flow console) := by
  simp only [Outcome.complete, finish]
  split <;> rfl

/-- **The four ways a cycle can go** when the console is well-formed, with the outcome of each. -/
inductive Cycle (setup : Setup) (console : Console) : Outcome → Prop where
  /-- A key is awaited and none was typed. -/
  | idle (register : Register) (waiting : console.machine.activity = .awaitingKey register)
      (silent : console.keypad.typed = none) :
      Cycle setup console (.ran .waiting none console)
  /-- A key is awaited and a digit was typed. -/
  | answered (register digit : Fin 16)
      (waiting : console.machine.activity = .awaitingKey register)
      (typed : console.keypad.typed = some (digit.val : Int)) :
      Cycle setup console
        (.ran .next (some (.keyStored (UInt8.ofNat digit) register))
          (finish .next { console with
            machine :=
              { console.machine.setRegister register (UInt8.ofNat digit) with activity := .running }
            keypad := console.keypad.takeTyped.2 }))
  /-- The machine runs and the cycle has met a fault. -/
  | refused (fault : Fault) (running : console.machine.activity = .running)
      (met : console.machine.fault? setup.dialect = some fault) :
      Cycle setup console (.faulted fault console)
  /-- The machine runs and has carried out the instruction at the program counter. -/
  | executed (instruction : Instruction) (trace : Option Trace) (left : Console)
      (running : console.machine.activity = .running)
      (fetched : console.machine.PointsAt instruction.word)
      (sound : console.machine.fault? setup.dialect = none)
      (effect : Effect setup console instruction instruction.flow left) :
      Cycle setup console (.ran instruction.flow trace (finish instruction.flow left))

/-- A cycle of a running machine that meets a fault stops there. -/
lemma step_of_fault? (hpc : 0 ≤ console.machine.pc)
    (running : console.machine.activity = .running)
    (met : console.machine.fault? setup.dialect = some fault) :
    console.step setup = .faulted fault console := by
  cases hword : console.machine.word? with
  | none =>
      have hlost : console.machine.isLost = false := by
        simp only [Machine.isLost, memorySize, decide_eq_false_iff_not]
        omega
      simp only [Machine.fault?, hword, Option.some.injEq] at met
      simp only [step, running, hword, hlost, Bool.false_eq_true, if_false, met]
  | some word =>
      cases hdecode : word.decode with
      | none =>
          simp only [Machine.fault?, hword, hdecode, Option.some.injEq] at met
          simp only [step, running, hword, hdecode, met]
      | some instruction =>
          simp only [Machine.fault?, hword, hdecode] at met
          simp only [step, running, hword, hdecode, execute_of_fault? met, Outcome.complete]

/-- A cycle of a running machine that meets no fault carries out the instruction at the program
counter. -/
lemma step_of_fault?_none (wf : console.machine.WellFormed)
    (running : console.machine.activity = .running)
    (sound : console.machine.fault? setup.dialect = none) :
    ∃ instruction trace left, console.machine.PointsAt instruction.word ∧
      console.execute setup instruction = .ran instruction.flow trace left ∧
      console.step setup = .ran instruction.flow trace (finish instruction.flow left) := by
  cases hword : console.machine.word? with
  | none =>
      simp only [Machine.fault?, hword] at sound
      cases sound
  | some word =>
      cases hdecode : word.decode with
      | none =>
          simp only [Machine.fault?, hword, hdecode] at sound
          cases sound
      | some instruction =>
          simp only [Machine.fault?, hword, hdecode] at sound
          obtain ⟨trace, left, hran⟩ := execute_ran wf sound
          refine ⟨instruction, trace, left, ?_, hran, ?_⟩
          · rw [Word.word_of_decode hdecode]
            exact (Machine.word?_eq_some_iff wf.pc_nonneg).mp hword
          · simp only [step, running, hword, hdecode, hran, complete_ran]

/-- **A cycle goes one of the four ways.** -/
theorem cycle_step (setup : Setup) (wf : console.WellFormed) :
    Cycle setup console (console.step setup) := by
  cases hactivity : console.machine.activity with
  | awaitingKey register =>
    simp only [step, hactivity, Keypad.takeTyped]
    cases htyped : console.keypad.typed with
    | none => exact .idle register hactivity htyped
    | some number =>
      obtain ⟨hnonneg, hlt⟩ := wf.typed number htyped
      obtain ⟨digit, rfl⟩ : ∃ digit : Fin 16, number = digit.val :=
        ⟨⟨number.toNat, by omega⟩, by simp only; omega⟩
      have hbyte : Numbering.byte? (digit.val : Int) = some (UInt8.ofNat digit) := by
        rw [Numbering.byte?, if_pos ⟨hnonneg, by omega⟩]
        rfl
      simp only [answer, hbyte, complete_ran]
      exact .answered register digit hactivity htyped
  | running =>
    cases hfault : console.machine.fault? setup.dialect with
    | some fault =>
      rw [step_of_fault? wf.machine.pc_nonneg hactivity hfault]
      exact .refused fault hactivity hfault
    | none =>
      obtain ⟨instruction, trace, left, hpoints, hran, hstep⟩ :=
        step_of_fault?_none wf.machine hactivity hfault
      rw [hstep]
      exact .executed instruction trace left hactivity hpoints hfault (execute_effect hran)

end Console

end ChipEight
