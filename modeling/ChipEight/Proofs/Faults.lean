import ChipEight.Proofs.Invariant

/-!
# Faults

When a cycle is refused, with which fault, and what it leaves behind.

* **`Console.left_of_faulted`** — a cycle that is refused leaves the console as it was.  This holds
  of every console, in whatever state a host has put it.
* `Machine.Refuses` — the faults of a machine, read off the word at the program counter by the
  pattern that it has, without decoding it.
* `Machine.refuses_iff` — they are the faults that the cycle looks for.
* **`Console.step_faulted_iff_refuses`** — on a reachable machine these are the faults, and nothing
  else goes wrong.
-/

namespace ChipEight

/-! ## What a fault leaves behind -/

namespace Console

/-- Ending a cycle refuses nothing. -/
lemma of_complete_faulted {outcome : Outcome} {fault : Fault} {left : Console}
    (h : outcome.complete = .faulted fault left) : outcome = .faulted fault left := by
  cases outcome with
  | ran flow trace next => cases h
  | faulted other next => exact h
  | stuck misfit next => cases h

/-- The answer to a wait is never refused. -/
lemma answer_ne_faulted (console : Console) (register : Register) (number : Int) (fault : Fault)
    (left : Console) : console.answer register number ≠ .faulted fault left := by
  intro h
  simp only [answer] at h
  split at h <;> cases h

/-- **A cycle that is refused leaves everything as it was:** memory, registers, I, the program
counter, the stack, the timers, the screen, the activity, the keys that are held, the digit that was
typed and the count of random bytes. -/
theorem left_of_faulted {setup : Setup} {console left : Console} {fault : Fault}
    (h : console.step setup = .faulted fault left) : left = console := by
  simp only [step] at h
  split at h
  · split at h
    · cases h
    · exact absurd (of_complete_faulted h) (answer_ne_faulted console _ _ fault left)
  · split at h
    · split at h <;> cases h
      rfl
    · split at h
      · cases h
        rfl
      · exact (fault?_of_execute (of_complete_faulted h)).2

/-- A sprite of five rows at `0xFFE` reaches too far.  VF, the timer, the held key and the typed
digit are as they were. -/
theorem left_of_faulted_sprite :
    let console : Console := {
      machine := { Machine.powerOn with
        memory := Machine.powerOn.memory.write programStart [0xD1, 0x25]
        registers := (Machine.powerOn.registers.set 1 9).set 15 7
        index := 0xFFE
        delay := 3 }
      keypad := ({} : Keypad).press 7
      draws := 2 }
    ∃ left, console.step {} = .faulted { kind := .illegalAddress 4098 } left ∧ left = console := by
  intro console
  have met : console.machine.fault? {} = some { kind := .illegalAddress 4098 } := by
    decide +kernel
  have h : console.step {} = .faulted { kind := .illegalAddress 4098 } console :=
    step_of_fault? (by decide) rfl met
  exact ⟨console, h, left_of_faulted h⟩

end Console

/-! ## The faults of a machine -/

namespace Machine

/-- **The faults of a running machine,** told from the pattern of the word at the program
counter. -/
inductive Refuses (dialect : Dialect) (machine : Machine) : Fault → Prop where
  /-- The program counter leaves no room for a word. -/
  | outside (beyond : memorySize ≤ machine.pc + 1) :
      Refuses dialect machine (.outsideMemory machine.pc)
  /-- The word has the pattern of no instruction. -/
  | unknown (word : Word) (pointed : machine.PointsAt word)
      (foreign : ∀ instruction : Instruction, instruction.word ≠ word) :
      Refuses dialect machine { kind := .unknownWord word.toNat }
  /-- `EX9E` or `EXA1`, and Vx names no key. -/
  | noKey (x : Register) (word : Word) (pointed : machine.PointsAt word)
      (pattern : word = (Instruction.skipIfKey x).word ∨ word = (Instruction.skipUnlessKey x).word)
      (beyond : 16 ≤ (machine.register x).toNat) :
      Refuses dialect machine (.notAKey word x (machine.register x))
  /-- `00EE` with no call outstanding. -/
  | noCall (pointed : machine.PointsAt Instruction.ret.word) (empty : machine.depth = 0) :
      Refuses dialect machine { kind := .illegalReturn }
  /-- `2NNN` with every place of the stack taken. -/
  | fullStack (target : Address) (pointed : machine.PointsAt (Instruction.call target).word)
      (full : machine.depth = stackSize) :
      Refuses dialect machine { kind := .stackFull }
  /-- `DXYN`, and the last row that would be drawn lies beyond memory. -/
  | sprite (x y : Register) (height : Fin 16) (rows : Nat)
      (pointed : machine.PointsAt (Instruction.draw x y height).word)
      (visible : rows =
        if dialect.clipsSprites then min height.val (32 - (machine.register y).toNat % 32)
        else height.val)
      (beyond : memorySize < machine.index + rows) :
      Refuses dialect machine { kind := .illegalAddress (machine.index + rows - 1) }
  /-- `FX33` without room for three digits. -/
  | digits (x : Register) (pointed : machine.PointsAt (Instruction.decimal x).word)
      (beyond : memorySize - 3 < machine.index) :
      Refuses dialect machine { kind := .illegalAddress machine.index }
  /-- `FX55` or `FX65` without room for V0 to Vx. -/
  | registerRun (x : Register) (word : Word) (pointed : machine.PointsAt word)
      (pattern : word = (Instruction.store x).word ∨ word = (Instruction.load x).word)
      (beyond : memorySize ≤ machine.index + x.val) :
      Refuses dialect machine { kind := .illegalAddress (machine.index + x.val) }

variable {dialect : Dialect} {machine : Machine} {fault : Fault} {instruction : Instruction}

/-- At the word of an instruction the fault is that of the instruction. -/
lemma fault?_of_pointsAt (pointed : machine.PointsAt instruction.word) :
    machine.fault? dialect = instruction.fault? dialect machine := by
  have hword := (word?_eq_some_iff pointed.pc_le.1).mpr pointed
  simp only [fault?, hword, Word.decode_word]

/-- The fault of an instruction is one of those told from its word. -/
lemma refuses_of_instruction (wf : machine.WellFormed)
    (pointed : machine.PointsAt instruction.word)
    (met : instruction.fault? dialect machine = some fault) : machine.Refuses dialect fault := by
  cases instruction
  all_goals
    simp only [Instruction.fault?, Option.ite_none_right_eq_some, Option.some.injEq,
      reduceCtorEq] at met
  -- only the instructions that can be refused are left
  all_goals obtain ⟨htest, rfl⟩ := met
  case ret => exact .noCall pointed htest
  case call target => exact .fullStack target pointed (Nat.le_antisymm wf.depth_le htest)
  case skipIfKey x => exact .noKey x _ pointed (Or.inl rfl) htest
  case skipUnlessKey x => exact .noKey x _ pointed (Or.inr rfl) htest
  case draw x y height => exact .sprite x y height _ pointed rfl htest
  case decimal x => exact .digits x pointed (by simp only [memorySize] at *; omega)
  case store x => exact .registerRun x _ pointed (Or.inl rfl) htest
  case load x => exact .registerRun x _ pointed (Or.inr rfl) htest

/-- **The faults told from the word are the faults that the cycle looks for.** -/
theorem refuses_iff (wf : machine.WellFormed) :
    machine.Refuses dialect fault ↔ machine.fault? dialect = some fault := by
  have hpc := wf.pc_nonneg
  constructor
  · intro h
    cases h with
    | outside beyond => rw [fault?, (word?_eq_none_iff hpc).mpr beyond]
    | unknown word pointed foreign =>
        have hdecode : word.decode = none := by
          cases hword : word.decode with
          | none => rfl
          | some instruction => exact absurd (Word.word_of_decode hword) (foreign instruction)
        simp only [fault?, (word?_eq_some_iff hpc).mpr pointed, hdecode]
    | noKey x word pointed pattern beyond =>
        rcases pattern with rfl | rfl
        · rw [fault?_of_pointsAt pointed]
          exact if_pos beyond
        · rw [fault?_of_pointsAt pointed]
          exact if_pos beyond
    | noCall pointed empty =>
        rw [fault?_of_pointsAt pointed]
        exact if_pos empty
    | fullStack target pointed full =>
        rw [fault?_of_pointsAt pointed]
        exact if_pos (Nat.le_of_eq full.symm)
    | sprite x y height rows pointed visible beyond =>
        rw [fault?_of_pointsAt pointed]
        subst visible
        exact if_pos beyond
    | digits x pointed beyond =>
        rw [fault?_of_pointsAt pointed]
        exact if_pos (by simp only [memorySize] at *; omega)
    | registerRun x word pointed pattern beyond =>
        rcases pattern with rfl | rfl
        · rw [fault?_of_pointsAt pointed]
          exact if_pos beyond
        · rw [fault?_of_pointsAt pointed]
          exact if_pos beyond
  · intro h
    cases hword : machine.word? with
    | none =>
        simp only [fault?, hword, Option.some.injEq] at h
        rw [← h]
        exact .outside ((word?_eq_none_iff hpc).mp hword)
    | some word =>
        have pointed := (word?_eq_some_iff hpc).mp hword
        cases hdecode : word.decode with
        | none =>
            simp only [fault?, hword, hdecode, Option.some.injEq] at h
            rw [← h]
            refine .unknown word pointed fun instruction heq => ?_
            rw [← heq, Word.decode_word] at hdecode
            cases hdecode
        | some instruction =>
            simp only [fault?, hword, hdecode] at h
            rw [← Word.word_of_decode hdecode] at pointed
            exact refuses_of_instruction wf pointed h

end Machine

/-! ## A cycle of a reachable machine -/

namespace Console

variable {setup : Setup} {console : Console}

/-- A wait never refuses a digit, nor the lack of one. -/
lemma ran_of_waiting (setup : Setup) (wf : console.WellFormed) {register : Register}
    (waiting : console.machine.activity = .awaitingKey register) :
    ∃ flow trace left, console.step setup = .ran flow trace left := by
  have hcycle := cycle_step setup wf
  generalize console.step setup = outcome at hcycle ⊢
  cases hcycle with
  | idle register waiting silent => exact ⟨_, _, _, rfl⟩
  | answered register digit waiting typed => exact ⟨_, _, _, rfl⟩
  | refused fault running met =>
      rw [waiting] at running
      cases running
  | executed instruction trace left running fetched sound effect => exact ⟨_, _, _, rfl⟩

/-- A running machine is refused a cycle just for the fault that it meets. -/
lemma step_faulted_iff (wf : console.WellFormed) (running : console.machine.activity = .running)
    {fault : Fault} {left : Console} :
    console.step setup = .faulted fault left ↔
      console.machine.fault? setup.dialect = some fault ∧ left = console := by
  constructor
  · intro h
    have hcycle := cycle_step setup wf
    rw [h] at hcycle
    cases hcycle with
    | refused fault running met => exact ⟨met, rfl⟩
  · rintro ⟨met, rfl⟩
    exact step_of_fault? wf.machine.pc_nonneg running met

/-- A cycle is refused with a kind of fault just when the machine runs and has a fault of that
kind. -/
lemma faulted_kind_iff (wf : console.WellFormed) (kind : Fault.Kind) :
    (∃ fault left, console.step setup = .faulted fault left ∧ fault.kind = kind) ↔
      console.machine.activity = .running ∧
        ∃ fault, console.machine.Refuses setup.dialect fault ∧ fault.kind = kind := by
  constructor
  · rintro ⟨fault, left, hstep, hkind⟩
    cases hactivity : console.machine.activity with
    | running =>
        have met := ((step_faulted_iff wf hactivity).mp hstep).1
        exact ⟨rfl, fault, (Machine.refuses_iff wf.machine).mpr met, hkind⟩
    | awaitingKey register =>
        obtain ⟨flow, trace, next, hran⟩ := ran_of_waiting setup wf hactivity
        rw [hran] at hstep
        cases hstep
  · rintro ⟨running, fault, refuses, hkind⟩
    have met := (Machine.refuses_iff wf.machine).mp refuses
    exact ⟨fault, console, (step_faulted_iff wf running).mpr ⟨met, rfl⟩, hkind⟩

/-- On a well-formed machine no cycle is stuck. -/
lemma step_ne_stuck (wf : console.WellFormed) (misfit : Misfit) (left : Console) :
    console.step setup ≠ .stuck misfit left := by
  intro h
  have hcycle := cycle_step setup wf
  rw [h] at hcycle
  cases hcycle

/-- **The faults of a reachable machine are those of its word, and nothing else goes wrong.**  A
machine that waits is never refused a cycle; one that runs is refused just for a fault told from the
word at the program counter, and carries out an instruction otherwise; and no number is ever a
misfit. -/
theorem step_faulted_iff_refuses (setup : Setup) {machine : Machine} (reach : machine.Reachable)
    {keypad : Keypad} (typed : ∀ number ∈ keypad.typed, 0 ≤ number ∧ number < 16) (draws : Nat) :
    let console : Console := { machine, keypad, draws }
    (∀ register, machine.activity = .awaitingKey register →
        ∃ flow trace left, console.step setup = .ran flow trace left) ∧
      (machine.activity = .running →
        (∀ fault left, console.step setup = .faulted fault left ↔
          machine.Refuses setup.dialect fault ∧ left = console) ∧
        ((∀ fault, ¬ machine.Refuses setup.dialect fault) →
          ∃ flow trace left, console.step setup = .ran flow trace left)) ∧
      ∀ misfit left, console.step setup ≠ .stuck misfit left := by
  intro console
  have wf : console.WellFormed := ⟨reach.wellFormed, typed⟩
  refine ⟨fun register waiting => ran_of_waiting setup wf waiting, fun running => ⟨?_, ?_⟩,
    step_ne_stuck wf⟩
  · intro fault left
    rw [Machine.refuses_iff wf.machine]
    exact step_faulted_iff wf running
  · intro hnone
    have sound : machine.fault? setup.dialect = none := by
      cases hfault : machine.fault? setup.dialect with
      | none => rfl
      | some fault => exact absurd ((Machine.refuses_iff wf.machine).mpr hfault) (hnone fault)
    obtain ⟨instruction, trace, left, -, -, hstep⟩ :=
      step_of_fault?_none wf.machine running sound
    exact ⟨_, _, _, hstep⟩

/-- I is set to `0xFFE` and a sprite of three rows follows, the last of which would lie at
`0x1000`. -/
theorem step_faulted_sprite_at_end :
    let machine := (({} : Console).acts {} [.load [0xAF, 0xFE, 0xD0, 0x13], .cycle]).machine
    let console : Console := { machine }
    machine.Reachable ∧ machine.activity = .running ∧
      console.step {} = .faulted { kind := .illegalAddress 0x1000 } console := by
  intro machine console
  have reach : machine.Reachable := ⟨{}, _, reachable_iff.mpr ⟨_, rfl⟩, rfl⟩
  have typed : ∀ number ∈ ({} : Keypad).typed, 0 ≤ number ∧ number < 16 := nofun
  have running : machine.activity = .running := by decide +kernel
  have pointed : machine.PointsAt (Instruction.draw 0 1 3).word :=
    ⟨0x202, by decide, by decide +kernel, by decide +kernel⟩
  have refuses : machine.Refuses {} { kind := .illegalAddress 0x1000 } := by
    have hindex : machine.index = 0xFFE := by decide +kernel
    have hrows : (machine.register 1).toNat = 0 := by decide +kernel
    have h : machine.Refuses {} { kind := .illegalAddress (machine.index + (3 : Nat) - 1) } :=
      .sprite 0 1 3 3 pointed (by rw [hrows]; rfl) (by rw [hindex]; decide)
    rwa [hindex] at h
  have hstep := ((step_faulted_iff_refuses {} reach typed 0).2.1 running).1
  exact ⟨reach, running, (hstep _ _).mpr ⟨refuses, rfl⟩⟩

end Console

end ChipEight
