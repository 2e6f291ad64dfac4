import ChipEight.Proofs.Calls

/-!
# The footprint of an instruction

What a cycle cannot touch.  A few tables say what each instruction may write, and whatever is not in
them is left as it was, in every state and under every dialect.

* `Instruction.bytesWritten`, `Instruction.registersWritten`, `Instruction.writesScreen`,
  `Instruction.writesIndex`, `Instruction.isWait`, `Instruction.isRandom` — the tables.
* `Console.Writes`, `Console.execute_writes` — memory, screen and registers after an instruction,
  which `Console.Effect` leaves open.
* `Console.left_execute` — what becomes of the keypad and of the random bytes.
* `Console.exists_execute_of_ran`, `Console.exists_execute_of_executed?` — a cycle of a running
  machine that was not refused has carried out the instruction at the program counter.
* **`Console.Footprint`, `Console.footprint_of_ran`** — what a whole cycle leaves alone.
-/

namespace ChipEight

/-! ## What instructions may write -/

namespace Instruction

/-- How many bytes of memory an instruction writes, from I on. -/
def bytesWritten : Instruction → Nat
  | .decimal _ => 3
  | .store x => x + 1
  | _ => 0

/-- The registers that an instruction writes.  VF may be the only one, or come on top of Vx. -/
def registersWritten (dialect : Dialect) : Instruction → List Register
  | .set x _ | .addByte x _ | .copy x _ | .random x _ | .readDelay x => [x]
  | .or x _ | .and x _ | .xor x _ =>
    if dialect.logicClearsFlag then [x, Register.flag] else [x]
  | .add x _ | .sub x _ | .subFrom x _ | .shiftRight x _ | .shiftLeft x _ => [x, Register.flag]
  | .draw _ _ _ => [Register.flag]
  | .load x => (List.finRange 16).filter (· ≤ x)
  | _ => []

/-- Whether an instruction changes the screen. -/
def writesScreen : Instruction → Bool
  | .clear | .draw _ _ _ => true
  | _ => false

/-- Whether an instruction sets I. -/
def writesIndex (dialect : Dialect) : Instruction → Bool
  | .setIndex _ | .addIndex _ | .glyph _ => true
  | .store _ | .load _ => dialect.advancesIndex
  | _ => false

/-- Whether an instruction begins a wait. -/
def isWait : Instruction → Bool
  | .awaitKey _ => true
  | _ => false

/-- Whether an instruction takes a random byte. -/
def isRandom : Instruction → Bool
  | .random _ _ => true
  | _ => false

end Instruction

/-! ## Writes and what lies outside them -/

/-- A write leaves alone what lies before and behind its run. -/
lemma Cells.getElem_write_of_outside {n : Nat} {bytes : List UInt8} (cells : Cells n)
    {start i : Nat} (h : i < n) (outside : i < start ∨ start + bytes.length ≤ i) :
    (cells.write start bytes)[i] = cells[i] := by
  rw [getElem_write]
  rcases outside with hbefore | hbehind
  · rw [if_neg (by omega)]
  · rw [if_pos (by omega), List.getElem?_eq_none (by omega), Option.getD_none]

/-- A run that is read is no longer than what was asked for. -/
lemma Cells.length_read_le {n : Nat} (cells : Cells n) (start count : Nat) :
    (cells.read start count).length ≤ count := by
  simp only [read, Array.length_toList, Array.size_extract]
  omega

/-- The instruction at the program counter, if there is one. -/
def Machine.instruction? (machine : Machine) : Option Instruction :=
  machine.word?.bind Word.decode

/-- The end that all cycles share concerns the machine alone. -/
lemma Outcome.left_complete (outcome : Outcome) :
    outcome.complete.left = { outcome.left with machine := outcome.complete.left.machine } := by
  cases outcome <;> rfl

/-- Setting a register leaves the others alone. -/
lemma Machine.register_setRegister_of_ne (machine : Machine) {x register : Register}
    (byte : UInt8) (h : register ≠ x) :
    (machine.setRegister x byte).register register = machine.register register := by
  have hne : x.val ≠ register.val := fun heq => h (Fin.ext heq.symm)
  simp [Machine.register, setRegister, hne]

/-- What is put into a register is there. -/
lemma Machine.register_setRegister_self (machine : Machine) (x : Register) (byte : UInt8) :
    (machine.setRegister x byte).register x = byte := by
  simp [Machine.register, setRegister]

namespace Console

variable {setup : Setup} {console left : Console} {instruction : Instruction} {flow : Flow}
  {trace : Option Trace}

/-- **What an instruction that was carried out has written** to memory, to the screen and to the
registers. -/
structure Writes (setup : Setup) (console : Console) (instruction : Instruction)
    (left : Console) : Prop where
  memory_eq : ∀ place : Fin memorySize,
    place < console.machine.index ∨
        console.machine.index + instruction.bytesWritten ≤ place →
      left.machine.memory[place] = console.machine.memory[place]
  screen_eq : instruction.writesScreen = false → left.machine.screen = console.machine.screen
  register_eq : ∀ register ∉ instruction.registersWritten setup.dialect,
    left.machine.register register = console.machine.register register

/-- An instruction that writes nothing but registers. -/
lemma Writes.of_registers (hmemory : left.machine.memory = console.machine.memory)
    (hscreen : left.machine.screen = console.machine.screen)
    (hregister : ∀ register ∉ instruction.registersWritten setup.dialect,
      left.machine.register register = console.machine.register register) :
    Writes setup console instruction left where
  memory_eq := fun place _ => by rw [hmemory]
  screen_eq := fun _ => hscreen
  register_eq := hregister

/-- An instruction that writes two registers at most. -/
lemma register_of_notMem_pair {machine : Machine} {x y register : Register} {first second : UInt8}
    (h : register ∉ [x, y]) :
    ((machine.setRegister x first).setRegister y second).register register =
      machine.register register := by
  rw [List.mem_cons, List.mem_singleton, not_or] at h
  rw [Machine.register_setRegister_of_ne _ _ h.2, Machine.register_setRegister_of_ne _ _ h.1]

/-- **An instruction that is carried out writes what its tables allow.** -/
theorem execute_writes (wf : console.machine.WellFormed)
    (h : console.execute setup instruction = .ran flow trace left) :
    Writes setup console instruction left := by
  obtain ⟨start, -, hindex⟩ := wf.index_eq
  cases instruction
  case clear =>
    cases h
    exact ⟨fun _ _ => rfl, fun hkept => absurd hkept (by decide), fun _ _ => rfl⟩
  case decimal x =>
    simp only [execute, go] at h
    split at h
    · cases h
    · rename_i hroom
      have hdigits (a b c : UInt8) : start + [a, b, c].length ≤ memorySize := by
        simp only [List.length_cons, List.length_nil]
        omega
      rw [hindex, Cells.setBytes?_natCast _ (hdigits _ _ _)] at h
      cases h
      refine ⟨fun place houtside => ?_, fun _ => rfl, fun _ _ => rfl⟩
      simp only [hindex, Instruction.bytesWritten] at houtside
      refine Cells.getElem_write_of_outside _ place.isLt ?_
      simp only [List.length_cons, List.length_nil]
      omega
  case store x =>
    simp only [execute, go] at h
    split at h
    · cases h
    · rw [Machine.assign?_memory hindex (by omega)] at h
      cases h
      refine ⟨fun place houtside => ?_, fun _ => rfl, fun _ _ => rfl⟩
      simp only [hindex, Instruction.bytesWritten] at houtside
      refine Cells.getElem_write_of_outside _ place.isLt ?_
      have hlength := console.machine.registers.length_read_le 0 (x + 1)
      omega
  case load x =>
    simp only [execute, go] at h
    split at h
    · cases h
    · rw [Machine.assign?_registers hindex (by omega)] at h
      cases h
      refine .of_registers rfl rfl fun register hnot => ?_
      have hbehind : ¬ register ≤ x := by
        simpa [Instruction.registersWritten] using hnot
      have hlength := console.machine.memory.length_read_le start (x + 1)
      rw [Fin.le_def] at hbehind
      exact Cells.getElem_write_of_outside _ register.isLt (Or.inr (by omega))
  case draw x y height =>
    simp only [execute] at h
    split at h
    · cases h
    · split at h
      · cases h
      · cases h
        refine ⟨fun _ _ => rfl, fun hkept => absurd hkept (by simp [Instruction.writesScreen]),
          fun register hnot => ?_⟩
        rw [Instruction.registersWritten, List.mem_singleton] at hnot
        exact Machine.register_setRegister_of_ne _ _ hnot
  case readDelay x =>
    simp only [execute, put, go] at h
    split at h
    · cases h
    · cases h
      refine .of_registers rfl rfl fun register hnot => ?_
      rw [Instruction.registersWritten, List.mem_singleton] at hnot
      exact Machine.register_setRegister_of_ne _ _ hnot
  case set x byte | addByte x byte | copy x y | random x mask =>
    simp only [execute, put, go] at h
    cases h
    refine .of_registers rfl rfl fun register hnot => ?_
    rw [Instruction.registersWritten, List.mem_singleton] at hnot
    exact Machine.register_setRegister_of_ne _ _ hnot
  case or x y | and x y | xor x y =>
    simp only [execute, putLogic, go] at h
    split at h
    all_goals
      rename_i hclears
      cases h
      refine .of_registers rfl rfl fun register hnot => ?_
      simp only [Instruction.registersWritten, hclears, Bool.false_eq_true, if_true,
        if_false] at hnot
    · exact register_of_notMem_pair hnot
    · exact Machine.register_setRegister_of_ne _ _ (List.mem_singleton.not.mp hnot)
  case add x y | sub x y | subFrom x y | shiftRight x y | shiftLeft x y =>
    simp only [execute, putFlagged, go] at h
    cases h
    exact .of_registers rfl rfl fun register hnot => register_of_notMem_pair hnot
  -- the others write none of these
  case ret =>
    simp only [execute, go] at h
    split at h
    · cases h
    · split at h
      · cases h
      · cases h
        exact .of_registers rfl rfl fun _ _ => rfl
  case call target =>
    simp only [execute] at h
    split at h
    · split at h
      · cases h
      · cases h
        exact .of_registers rfl rfl fun _ _ => rfl
    · cases h
  case skipIfKey x | skipUnlessKey x =>
    simp only [execute, skipOnKey_eq, skipIf_eq, go] at h
    split at h
    · cases h
      exact .of_registers rfl rfl fun _ _ => rfl
    · cases h
  all_goals
    simp only [execute, skipIf_eq, go] at h
    cases h
    exact .of_registers rfl rfl fun _ _ => rfl

/-- **What an instruction does outside the machine,** whatever becomes of it otherwise: it drops
what was typed if it begins a wait, and takes a random byte if it is to. -/
lemma left_execute (setup : Setup) (console : Console) (instruction : Instruction) :
    (console.execute setup instruction).left =
      { machine := (console.execute setup instruction).left.machine
        keypad := if instruction.isWait then console.keypad.takeTyped.2 else console.keypad
        draws := console.draws + if instruction.isRandom then 1 else 0 } := by
  cases instruction
  case random x mask => rfl
  case awaitKey x => rfl
  case skipIfKey x | skipUnlessKey x =>
    simp only [execute, skipOnKey_eq, skipIf_eq, go]
    split <;> rfl
  case readDelay x =>
    simp only [execute, put, go]
    split <;> rfl
  case call target =>
    simp only [execute]
    split
    · split <;> rfl
    · rfl
  case ret | draw | decimal | store | load =>
    simp only [execute, go]
    split
    · rfl
    · split <;> rfl
  all_goals
    simp only [execute, put, putFlagged, putLogic_eq, skipIf_eq, go]
    rfl

/-- **What a cycle of a running machine does outside the machine,** refused or not.  The instruction
at the program counter decides it. -/
theorem left_step (setup : Setup) (running : console.machine.activity = .running) :
    (console.step setup).left =
      { machine := (console.step setup).left.machine
        keypad :=
          if console.machine.instruction?.any Instruction.isWait then console.keypad.takeTyped.2
          else console.keypad
        draws := console.draws +
          if console.machine.instruction?.any Instruction.isRandom then 1 else 0 } := by
  cases hword : console.machine.word? with
  | none =>
      simp only [step, running, hword, Machine.instruction?]
      split <;> rfl
  | some word =>
      cases hdecode : word.decode with
      | none =>
          simp only [step, running, hword, hdecode, Machine.instruction?, Option.bind_some]
          rfl
      | some instruction =>
          have hleft := left_execute setup console instruction
          simp only [step, running, hword, hdecode, Machine.instruction?, Option.bind_some,
            Option.any_some]
          generalize console.execute setup instruction = outcome at hleft ⊢
          rw [Outcome.left_complete, hleft]

/-- An instruction that is not among those that set I leaves it alone. -/
lemma indexLeft_of_not_writesIndex (h : instruction.writesIndex setup.dialect = false) :
    console.indexLeft setup instruction = console.machine.index := by
  cases instruction
  case setIndex | addIndex | glyph => cases h
  case store x | load x =>
    simp only [Instruction.writesIndex] at h
    simp [indexLeft, indexAfter, h]
  all_goals rfl

/-! ## Cycles that carry out an instruction -/

/-- Only an instruction that was carried out ends in a cycle that was. -/
lemma exists_of_complete_ran {outcome : Outcome} (h : outcome.complete = .ran flow trace left) :
    ∃ before, outcome = .ran flow trace before ∧ left = finish flow before := by
  cases outcome with
  | ran other entry before =>
      rw [complete_ran] at h
      cases h
      exact ⟨before, rfl, rfl⟩
  | faulted fault before => cases h
  | stuck misfit before => cases h

/-- A machine points at one instruction at most. -/
lemma eq_of_pointsAt {machine : Machine} {other : Instruction}
    (h : machine.PointsAt instruction.word) (hother : machine.PointsAt other.word) :
    instruction = other := by
  have hdecode := Word.decode_word instruction
  rw [h.unique hother, Word.decode_word, Option.some.injEq] at hdecode
  exact hdecode.symm

/-- **A cycle of a running machine that was not refused** has carried out the instruction at the
program counter, and has then been finished. -/
theorem exists_execute_of_ran (hpc : 0 ≤ console.machine.pc)
    (running : console.machine.activity = .running)
    (ran : console.step setup = .ran flow trace left) :
    ∃ instruction before, console.machine.PointsAt instruction.word ∧
      console.execute setup instruction = .ran flow trace before ∧ left = finish flow before := by
  cases hword : console.machine.word? with
  | none =>
      simp only [step, running, hword] at ran
      split at ran <;> cases ran
  | some word =>
      cases hdecode : word.decode with
      | none =>
          simp only [step, running, hword, hdecode] at ran
          cases ran
      | some instruction =>
          simp only [step, running, hword, hdecode] at ran
          rcases exists_of_complete_ran ran with ⟨before, hran, hleft⟩
          refine ⟨instruction, before, ?_, hran, hleft⟩
          rw [Word.word_of_decode hdecode]
          exact (Machine.word?_eq_some_iff hpc).mp hword

/-- The same, told from the instruction that was carried out. -/
lemma exists_execute_of_executed? {action : Action} (hpc : 0 ≤ console.machine.pc)
    (h : console.executed? setup action = some instruction) :
    ∃ trace before, console.execute setup instruction = .ran instruction.flow trace before ∧
      console.act setup action = finish instruction.flow before := by
  obtain rfl := eq_cycle_of_executed? h
  cases running : console.machine.activity with
  | awaitingKey register => simp [executed?, running] at h
  | running =>
      cases hstep : console.step setup with
      | faulted fault left => simp [executed?, running, hstep] at h
      | stuck misfit left => simp [executed?, running, hstep] at h
      | ran flow trace left =>
          rcases exists_execute_of_ran hpc running hstep with
            ⟨other, before, fetched, hran, rfl⟩
          rw [executed?_of_ran running fetched hstep, Option.some.injEq] at h
          subst h
          rw [act, hstep, Outcome.left, (execute_effect hran).flow_eq]
          rw [(execute_effect hran).flow_eq] at hran
          exact ⟨trace, before, hran, rfl⟩

/-- The other way round, an instruction that is carried out where it is fetched makes the cycle. -/
lemma step_of_execute_ran (running : console.machine.activity = .running)
    (fetched : console.machine.PointsAt instruction.word)
    (hran : console.execute setup instruction = .ran flow trace left) :
    console.step setup = .ran flow trace (finish flow left) := by
  have hword := (Machine.word?_eq_some_iff fetched.pc_le.1).mpr fetched
  simp only [step, running, hword, Word.decode_word, hran, complete_ran]

/-- The end that all cycles share leaves the registers alone. -/
@[simp] lemma register_finish (flow : Flow) (console : Console) (register : Register) :
    (finish flow console).machine.register register = console.machine.register register := rfl

/-- Both timers count down from what the instruction left in them. -/
lemma Effect.countDown_eq (wf : console.machine.WellFormed)
    (effect : Effect setup console instruction flow left) :
    left.machine.countDown =
      { left.machine with
        delay := max (console.delayLeft instruction - 1) 0
        sound := max (console.soundLeft instruction - 1) 0 } := by
  have hdelay := (delayLeft_bounds wf instruction).1
  have hsound := (soundLeft_bounds wf instruction).1
  rw [← effect.delay_eq] at hdelay ⊢
  rw [← effect.sound_eq] at hsound ⊢
  exact Machine.countDown_eq hdelay hsound

/-! ## The whole cycle -/

/-- **What a cycle leaves alone** that has carried out an instruction. -/
structure Footprint (setup : Setup) (console : Console) (instruction : Instruction)
    (left : Console) : Prop extends Writes setup console instruction left where
  index_eq : instruction.writesIndex setup.dialect = false →
    left.machine.index = console.machine.index
  /-- A call puts its own address on top of the stack. -/
  called : ∀ target, instruction = .call target →
    ∃ (address : Nat) (room : console.machine.depth < stackSize), console.machine.pc = address ∧
      left.machine.stack = console.machine.stack.set console.machine.depth address room ∧
      left.machine.depth = console.machine.depth + 1
  /-- A return only takes the topmost place away. -/
  returned : instruction = .ret →
    left.machine.stack = console.machine.stack ∧ left.machine.depth + 1 = console.machine.depth
  stacked : (∀ target, instruction ≠ .call target) → instruction ≠ .ret →
    left.machine.stack = console.machine.stack ∧ left.machine.depth = console.machine.depth
  /-- A wait begins with nothing typed and the same keys held. -/
  awaited : ∀ x, instruction = .awaitKey x →
    left.machine.activity = .awaitingKey x ∧ left.keypad = { console.keypad with typed := none }
  running : (∀ x, instruction ≠ .awaitKey x) →
    left.machine.activity = .running ∧ left.keypad = console.keypad
  draws_eq : left.draws = console.draws + if instruction.isRandom then 1 else 0
  /-- The delay timer counts down from where it was, or from where it was set. -/
  delay_eq : left.machine.delay = max (console.delayLeft instruction - 1) 0
  sound_eq : left.machine.sound = max (console.soundLeft instruction - 1) 0

/-- **Every cycle that carries out an instruction keeps to its footprint,** whatever the dialect,
the keypad and the source of random bytes. -/
theorem footprint_of_ran (reach : console.machine.Reachable)
    (running : console.machine.activity = .running)
    (ran : console.step setup = .ran flow trace left) :
    ∃ instruction, console.machine.PointsAt instruction.word ∧
      Footprint setup console instruction left := by
  have wf := reach.wellFormed
  rcases exists_execute_of_ran wf.pc_nonneg running ran with
    ⟨instruction, before, fetched, hran, rfl⟩
  refine ⟨instruction, fetched, ?_⟩
  have effect := execute_effect hran
  have writes := execute_writes wf hran
  have htimers := effect.countDown_eq wf
  have hdraws := congrArg Console.draws (left_execute setup console instruction)
  rw [hran] at hdraws
  exact {
    memory_eq := writes.memory_eq
    screen_eq := writes.screen_eq
    register_eq := writes.register_eq
    index_eq := fun hkept => effect.index_eq.trans (indexLeft_of_not_writesIndex hkept)
    called := by
      intro target hcall
      rcases effect.called target hcall with ⟨room, hstack, hdepth⟩
      exact ⟨_, room, (Int.toNat_of_nonneg wf.pc_nonneg).symm, hstack, hdepth⟩
    returned := by
      intro hret
      rcases effect.returned hret with ⟨hpos, -, hstack, hdepth⟩
      refine ⟨hstack, ?_⟩
      simp only [finish, Machine.countDown]
      omega
    stacked := effect.stacked
    awaited := effect.awaited
    running := by
      intro hwait
      rw [← running]
      exact effect.running hwait
    draws_eq := hdraws
    delay_eq := by simp only [finish, htimers]
    sound_eq := by simp only [finish, htimers] }

/-- All sixteen registers go to the last sixteen bytes of memory, and I goes on to zero.  Nothing
below `0xFF0` is written, and no register. -/
theorem footprint_of_ran_store_at_end :
    let console := ({} : Console).acts {} [.load [0xAF, 0xF0, 0xFF, 0x55], .cycle]
    ∃ flow trace left, console.step {} = .ran flow trace left ∧
      Footprint {} console (.store 15) left ∧
      (∀ place : Fin memorySize, place.val < 0xFF0 →
        left.machine.memory[place] = console.machine.memory[place]) ∧
      ∀ register, left.machine.register register = console.machine.register register := by
  intro console
  have reach : console.machine.Reachable := ⟨{}, console, reachable_iff.mpr ⟨_, rfl⟩, rfl⟩
  obtain ⟨running, hpc, hindex, hword, sound⟩ :
      console.machine.activity = .running ∧ console.machine.pc = 0x202 ∧
        console.machine.index = 0xFF0 ∧
        (Instruction.store 15).word.toNat = console.machine.memory[0x202].toNat * 256 +
          console.machine.memory[0x202 + 1].toNat ∧
        console.machine.fault? {} = none := by
    decide +kernel
  have fetched : console.machine.PointsAt (Instruction.store 15).word :=
    ⟨0x202, by decide, hpc, hword⟩
  rcases @step_of_fault?_none {} console reach.wellFormed running sound with
    ⟨_, trace, before, -, -, hran⟩
  rcases footprint_of_ran reach running hran with ⟨instruction, hfetched, footprint⟩
  obtain rfl := eq_of_pointsAt hfetched fetched
  refine ⟨_, trace, _, hran, footprint, fun place hlt => ?_, fun register => ?_⟩
  · refine footprint.memory_eq place (Or.inl ?_)
    rw [hindex]
    omega
  · refine footprint.register_eq register ?_
    simp [Instruction.registersWritten]

end Console

end ChipEight
