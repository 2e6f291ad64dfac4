import ChipEight.Proofs.Footprint

/-!
# One machine, two hosts

A host decides on a dialect, holds and releases keys, and hands out random bytes.  A machine asks
its host only in a few instructions, each of them for one of these things, and goes the same way
under any two hosts that answer the same where it asks.

* `Console.Agree` — two hosts that answer an instruction the same.
* `Outcome.emulated` — an outcome without what is left behind outside the machine.
* `Console.Unaffected` — a cycle in which the two hosts are not told apart.
* `Console.execute_emulated`, `Console.step_emulated` — one instruction, and one cycle, under two
  hosts.
* `Action.IsKey`, `Console.atCycle` — a run of cycles, with something happening to the keypad before
  each of them.
* `Console.InStep` — two consoles that have come along together.
* **`Console.same_under_two_hosts`** — whole runs of such cycles.
-/

namespace ChipEight

/-- An outcome without what is left behind outside the machine. -/
def Outcome.emulated : Outcome → Outcome
  | .ran flow trace left => .ran flow trace { machine := left.machine }
  | .faulted fault left => .faulted fault { machine := left.machine }
  | .stuck misfit left => .stuck misfit { machine := left.machine }

namespace Outcome

/-- What is left outside the machine plays no part in the end that all cycles share. -/
lemma emulated_complete (outcome : Outcome) :
    outcome.complete.emulated = outcome.emulated.complete := by
  cases outcome <;> rfl

/-- Outcomes that are the same but for what is outside leave the same machine behind. -/
lemma machine_left_of_emulated {one other : Outcome} (h : one.emulated = other.emulated) :
    one.left.machine = other.left.machine := by
  have hleft (outcome : Outcome) : outcome.emulated.left.machine = outcome.left.machine := by
    cases outcome <;> rfl
  rw [← hleft one, h, hleft other]

end Outcome

namespace Console

variable {setup setup' : Setup} {one other : Console} {instruction : Instruction}

/-! ## One instruction -/

/-- **Two hosts that answer an instruction the same:** what it asks for, if it asks for anything, is
the same with both. -/
def Agree (setup setup' : Setup) (one other : Console) : Instruction → Prop
  | .or _ _ | .and _ _ | .xor _ _ =>
    setup.dialect.logicClearsFlag = setup'.dialect.logicClearsFlag
  | .shiftRight _ _ | .shiftLeft _ _ => setup.dialect.shiftsFromY = setup'.dialect.shiftsFromY
  | .draw _ _ _ => setup.dialect.clipsSprites = setup'.dialect.clipsSprites
  | .store _ | .load _ => setup.dialect.advancesIndex = setup'.dialect.advancesIndex
  | .skipIfKey _ | .skipUnlessKey _ | .awaitKey _ => one.keypad = other.keypad
  | .random _ _ => setup.random one.draws = setup'.random other.draws
  | _ => True

instance : DecidablePred (Agree setup setup' one other)
  | .or _ _ | .and _ _ | .xor _ _ =>
    inferInstanceAs (Decidable (setup.dialect.logicClearsFlag = setup'.dialect.logicClearsFlag))
  | .shiftRight _ _ | .shiftLeft _ _ =>
    inferInstanceAs (Decidable (setup.dialect.shiftsFromY = setup'.dialect.shiftsFromY))
  | .draw _ _ _ =>
    inferInstanceAs (Decidable (setup.dialect.clipsSprites = setup'.dialect.clipsSprites))
  | .store _ | .load _ =>
    inferInstanceAs (Decidable (setup.dialect.advancesIndex = setup'.dialect.advancesIndex))
  | .skipIfKey _ | .skipUnlessKey _ | .awaitKey _ =>
    inferInstanceAs (Decidable (one.keypad = other.keypad))
  | .random _ _ =>
    inferInstanceAs (Decidable (setup.random one.draws = setup'.random other.draws))
  | .clear | .ret | .jump _ | .call _ | .skipIfByte _ _ | .skipUnlessByte _ _ | .skipIfSame _ _
  | .skipUnlessSame _ _ | .set _ _ | .addByte _ _ | .copy _ _ | .add _ _ | .sub _ _
  | .subFrom _ _ | .setIndex _ | .jumpOffset _ | .readDelay _ | .setDelay _ | .setSound _
  | .addIndex _ | .glyph _ | .decimal _ => isTrue trivial

/-- **An instruction does the same to a machine under two hosts** that answer it the same.  They
need not do so where it is refused, unless it is a sprite. -/
theorem execute_emulated (same : one.machine = other.machine)
    (executed : ∀ flow trace left, one.execute setup instruction = .ran flow trace left →
      Agree setup setup' one other instruction)
    (sprite : instruction.flow = .drew →
      setup.dialect.clipsSprites = setup'.dialect.clipsSprites) :
    (one.execute setup instruction).emulated = (other.execute setup' instruction).emulated := by
  rcases one with ⟨machine, keypad, draws⟩
  rcases other with ⟨machine', keypad', draws'⟩
  obtain rfl : machine = machine' := same
  cases instruction
  case or x y | and x y | xor x y =>
    have hclears : setup.dialect.logicClearsFlag = setup'.dialect.logicClearsFlag :=
      executed _ _ _ (putLogic_eq _ _ _ _)
    simp only [execute, putLogic_eq, hclears]
    rfl
  case shiftRight x y | shiftLeft x y =>
    have hshifts : setup.dialect.shiftsFromY = setup'.dialect.shiftsFromY := executed _ _ _ rfl
    simp only [execute, shiftSource, hshifts]
    rfl
  case random x mask =>
    have hbyte : setup.random draws = setup'.random draws' := executed _ _ _ rfl
    simp only [execute, hbyte]
    rfl
  case draw x y height =>
    simp only [execute, sprite rfl]
    split
    · rfl
    · split <;> rfl
  case store x | load x =>
    simp only [execute, go] at executed ⊢
    split
    · rfl
    · rename_i hroom
      rw [if_neg hroom] at executed
      split
      · rfl
      · rename_i hcopy
        rw [hcopy] at executed
        have hadvances : setup.dialect.advancesIndex = setup'.dialect.advancesIndex :=
          executed _ _ _ rfl
        simp only [indexAfter, hadvances]
        rfl
  case skipIfKey x | skipUnlessKey x =>
    simp only [execute, skipOnKey_eq, skipIf_eq, go] at executed ⊢
    by_cases hkey : (machine.register x).toNat < 16
    · rw [if_pos hkey] at executed
      obtain rfl : keypad = keypad' := executed _ _ _ rfl
      rw [if_pos hkey, if_pos hkey]
      rfl
    · rw [if_neg hkey, if_neg hkey]
      rfl
  -- the others ask for nothing
  case ret =>
    simp only [execute, go]
    split
    · rfl
    · split <;> rfl
  case call target =>
    simp only [execute]
    split
    · split <;> rfl
    · rfl
  case readDelay x =>
    simp only [execute, put, go]
    split <;> rfl
  case decimal x =>
    simp only [execute, go]
    split
    · rfl
    · split <;> rfl
  all_goals
    simp only [execute, skipIf_eq, go]
    rfl

/-! ## One cycle -/

/-- **A cycle in which two hosts are not told apart:** no wait is on, and they answer the
instruction that is carried out the same.  A sprite counts also if it is refused, since the address
that the fault tells depends on how much of it is cut off. -/
structure Unaffected (setup setup' : Setup) (one other : Console) : Prop where
  running : one.machine.activity = .running
  executed : ∀ instruction ∈ one.executed? setup .cycle, Agree setup setup' one other instruction
  sprite : ∀ instruction ∈ one.machine.instruction?, instruction.flow = .drew →
    setup.dialect.clipsSprites = setup'.dialect.clipsSprites

instance : Decidable (Unaffected setup setup' one other) :=
  decidable_of_iff
    (one.machine.activity = .running ∧
      (∀ instruction ∈ one.executed? setup .cycle, Agree setup setup' one other instruction) ∧
      ∀ instruction ∈ one.machine.instruction?, instruction.flow = .drew →
        setup.dialect.clipsSprites = setup'.dialect.clipsSprites)
    ⟨fun ⟨running, executed, sprite⟩ => ⟨running, executed, sprite⟩,
      fun ⟨running, executed, sprite⟩ => ⟨running, executed, sprite⟩⟩

/-- **A cycle goes the same way under two hosts** that are not told apart in it. -/
theorem step_emulated (same : one.machine = other.machine)
    (unaffected : Unaffected setup setup' one other) :
    (one.step setup).emulated = (other.step setup').emulated := by
  have running := unaffected.running
  cases hword : one.machine.word? with
  | none =>
      simp only [step, ← same, running, hword]
      split <;> simp only [Outcome.emulated, same]
  | some word =>
      cases hdecode : word.decode with
      | none => simp only [step, ← same, running, hword, hdecode, Outcome.emulated]
      | some instruction =>
          have hinstruction : one.machine.instruction? = some instruction := by
            rw [Machine.instruction?, hword, Option.bind_some, hdecode]
          have hstep : one.step setup = (one.execute setup instruction).complete := by
            simp only [step, running, hword, hdecode]
          have hstep' : other.step setup' = (other.execute setup' instruction).complete := by
            simp only [step, ← same, running, hword, hdecode]
          rw [hstep, hstep', Outcome.emulated_complete, Outcome.emulated_complete]
          refine congrArg Outcome.complete (execute_emulated same ?_ ?_)
          · intro flow trace left hran
            refine unaffected.executed instruction ?_
            rw [hran, complete_ran] at hstep
            simp only [executed?, running, hstep]
            exact hinstruction
          · exact unaffected.sprite instruction hinstruction

end Console

/-! ## Runs -/

/-- **Something that happens to the keypad.** -/
def Action.IsKey : Action → Prop
  | .press _ | .release _ | .clearKeys | .takeTyped => True
  | _ => False

namespace Console

variable {setup setup' : Setup} {one other : Console}

/-- **The console at a cycle of a run,** counted from zero, when a schedule says what happens to it
before each cycle. -/
def atCycle (setup : Setup) (schedule : Nat → List Action) (console : Console) : Nat → Console
  | 0 => console.acts setup (schedule 0)
  | n + 1 => ((console.atCycle setup schedule n).act setup .cycle).acts setup (schedule (n + 1))

/-- What happens to the keypad leaves everything else alone. -/
lemma acts_of_isKey {actions : List Action} (keys : ∀ action ∈ actions, action.IsKey)
    (console : Console) :
    console.acts setup actions =
      { console with keypad := (console.acts setup actions).keypad } := by
  refine acts_induction (motive := fun now => now = { console with keypad := now.keypad }) ?_ rfl
  intro action hmem now hnow
  have hkey := keys action hmem
  cases action with
  | cycle | skip | load program | reset => exact hkey.elim
  | press key | release key | clearKeys | takeTyped =>
      rw [hnow]
      rfl

/-- The same keys do the same to the same keypad under any two hosts. -/
lemma keypad_acts_of_isKey {actions : List Action} (keys : ∀ action ∈ actions, action.IsKey)
    (same : one.keypad = other.keypad) :
    (one.acts setup actions).keypad = (other.acts setup' actions).keypad := by
  induction actions generalizing one other with
  | nil => exact same
  | cons action rest ih =>
      have hkey := keys action List.mem_cons_self
      refine ih (fun later hmem => keys later (List.mem_cons_of_mem _ hmem)) ?_
      cases action with
      | cycle | skip | load program | reset => exact hkey.elim
      | press key | release key | clearKeys | takeTyped => simp only [act, same]

/-- **Two consoles in step,** `one` and `other`, that have come from `first` and from `second`:
their machines are the same, as many random bytes were taken with one host as with the other, and if
the two hosts are alike in what they do to the keypad then the keypads are the same. -/
structure InStep (alike : Prop) (first second one other : Console) : Prop where
  machine_eq : one.machine = other.machine
  draws_eq : one.draws + second.draws = other.draws + first.draws
  keypad_eq : alike → one.keypad = other.keypad

namespace InStep

variable {alike : Prop} {first second : Console}

/-- A cycle in which the hosts are not told apart keeps consoles in step. -/
lemma cycle (inStep : InStep alike first second one other)
    (unaffected : Unaffected setup setup' one other) :
    InStep alike first second (one.act setup .cycle) (other.act setup' .cycle) := by
  have running := unaffected.running
  have hleft := left_step setup running
  have hleft' := left_step setup' (inStep.machine_eq ▸ running)
  have hdraws := inStep.draws_eq
  refine { machine_eq := ?_, draws_eq := ?_, keypad_eq := fun halike => ?_ }
  · exact Outcome.machine_left_of_emulated (step_emulated inStep.machine_eq unaffected)
  · simp only [act]
    rw [hleft, hleft', inStep.machine_eq]
    simp only
    omega
  · simp only [act]
    rw [hleft, hleft', inStep.machine_eq, inStep.keypad_eq halike]

/-- So does what happens to their keypads. -/
lemma keys {actions actions' : List Action} (inStep : InStep alike first second one other)
    (hkeys : ∀ action ∈ actions, action.IsKey) (hkeys' : ∀ action ∈ actions', action.IsKey)
    (hactions : alike → actions = actions') :
    InStep alike first second (one.acts setup actions) (other.acts setup' actions') := by
  refine { machine_eq := ?_, draws_eq := ?_, keypad_eq := fun halike => ?_ }
  · rw [acts_of_isKey hkeys, acts_of_isKey hkeys']
    exact inStep.machine_eq
  · rw [acts_of_isKey hkeys, acts_of_isKey hkeys']
    exact inStep.draws_eq
  · obtain rfl := hactions halike
    exact keypad_acts_of_isKey hkeys (inStep.keypad_eq halike)

end InStep

/-- **Hosts act only through the instructions that ask them.**  Let two consoles have the same
machine, and whatever dialects, sources of random bytes and keypads.  Each of them runs cycle after
cycle, while whatever keys it likes are pressed and released between them.  As long as no cycle
begins in a wait and the hosts answer alike what they are asked, every cycle ends the same way with
both: the same flow and trace, or the same fault, and the same machine.  Their random bytes are then
taken in step, and their keypads are the same if they were to begin with and the same keys are
pressed.

A sprite asks whether it is cut off as soon as it is dispatched, carried out or not: hosts that
differ there leave the machine as it was if both refuse it, but they may tell different addresses in
the fault, and one may refuse what the other draws. -/
theorem same_under_two_hosts {schedule schedule' : Nat → List Action} {count : Nat}
    (keys : ∀ n, ∀ action ∈ schedule n, action.IsKey)
    (keys' : ∀ n, ∀ action ∈ schedule' n, action.IsKey) (same : one.machine = other.machine)
    (unaffected : ∀ n < count, Unaffected setup setup' (one.atCycle setup schedule n)
      (other.atCycle setup' schedule' n)) :
    (∀ n < count, ((one.atCycle setup schedule n).step setup).emulated =
      ((other.atCycle setup' schedule' n).step setup').emulated) ∧
    ∀ n ≤ count, InStep (one.keypad = other.keypad ∧ schedule = schedule') one other
      (one.atCycle setup schedule n) (other.atCycle setup' schedule' n) := by
  have hrun : ∀ n ≤ count, InStep (one.keypad = other.keypad ∧ schedule = schedule') one other
      (one.atCycle setup schedule n) (other.atCycle setup' schedule' n) := by
    intro n
    induction n with
    | zero =>
        intro _
        have hstart :
            InStep (one.keypad = other.keypad ∧ schedule = schedule') one other one other :=
          { machine_eq := same
            draws_eq := Nat.add_comm _ _
            keypad_eq := And.left }
        exact hstart.keys (keys 0) (keys' 0) fun halike => congrFun halike.2 0
    | succ n ih =>
        intro hle
        have hcycle := (ih (Nat.le_of_succ_le hle)).cycle (unaffected n hle)
        exact hcycle.keys (keys _) (keys' _) fun halike => congrFun halike.2 _
  refine ⟨fun n hlt => ?_, hrun⟩
  exact step_emulated (hrun n (Nat.le_of_lt hlt)).machine_eq (unaffected n hlt)

/-- A program that sets a register, adds to I and returns from nowhere, under two hosts that differ
in all that they can.  The return is refused with both, in the third cycle. -/
theorem same_under_two_hosts_refused :
    let setup : Setup :=
      { dialect :=
          { logicClearsFlag := false, shiftsFromY := false, clipsSprites := false,
            advancesIndex := false }
        random := fun _ => 7 }
    let load : Action := .load [0x60, 0x05, 0xF0, 0x1E, 0x00, 0xEE]
    let one := ({} : Console).acts {} [load]
    let other := ({} : Console).acts setup [load, .press 4]
    let schedule : Nat → List Action := fun _ => []
    let schedule' : Nat → List Action := fun n => if n = 1 then [.release 4, .press 9] else []
    (∀ n < 3, Unaffected {} setup (one.atCycle {} schedule n) (other.atCycle setup schedule' n)) ∧
      (one.atCycle {} schedule 2).machine = (other.atCycle setup schedule' 2).machine ∧
      ((one.atCycle {} schedule 2).step {}).emulated =
        ((other.atCycle setup schedule' 2).step setup).emulated ∧
      (one.atCycle {} schedule 2).machine.index = 5 ∧
      (one.atCycle {} schedule 2).keypad ≠ (other.atCycle setup schedule' 2).keypad := by
  intro setup load one other schedule schedule'
  obtain ⟨unaffected, hindex, hkeypad⟩ :
      (∀ n < 3, Unaffected {} setup (one.atCycle {} schedule n) (other.atCycle setup schedule' n)) ∧
        (one.atCycle {} schedule 2).machine.index = 5 ∧
        (one.atCycle {} schedule 2).keypad ≠ (other.atCycle setup schedule' 2).keypad := by
    decide +kernel
  have keys : ∀ n, ∀ action ∈ schedule n, action.IsKey := by simp [schedule]
  have keys' : ∀ n, ∀ action ∈ schedule' n, action.IsKey := by
    intro n action hmem
    by_cases hn : n = 1
    · simp only [schedule', hn, if_true, List.mem_cons, List.not_mem_nil, or_false] at hmem
      rcases hmem with rfl | rfl <;> trivial
    · simp [schedule', hn] at hmem
  have same : one.machine = other.machine := rfl
  rcases same_under_two_hosts keys keys' same unaffected with ⟨hends, hinStep⟩
  exact ⟨unaffected, (hinStep 2 (by decide)).machine_eq, hends 2 (by decide), hindex, hkeypad⟩

end Console

end ChipEight
