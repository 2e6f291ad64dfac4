import ChipEight.Proofs.Actions
import ChipEight.Proofs.WellFormed

/-!
# What every run keeps

A machine that is switched on well-formed stays so, whatever its instructions do and whatever a host
does to it short of writing its state.

* `Console.WellFormed.act`, `Console.WellFormed.acts` — every action keeps a console well-formed,
  and so does every run.
* `Console.Reachable.wellFormed`, `Machine.Reachable.wellFormed` — what can be reached is
  well-formed.
* `Machine.ShowsWait` — a machine that waits points at the instruction it waits for, until another
  program is put into memory.
* `Console.pc_le_acts`, `Console.showsWait_acts` — what a run keeps as long as nothing is skipped,
  or as long as no program is put into memory.
-/

namespace ChipEight

/-- **A machine that waits points at the instruction that makes it wait.** -/
def Machine.ShowsWait (machine : Machine) : Prop :=
  ∀ register, machine.activity = .awaitingKey register →
    machine.PointsAt (Instruction.awaitKey register).word

/-- A machine that runs waits for nothing. -/
lemma Machine.ShowsWait.of_running {machine : Machine} (running : machine.activity = .running) :
    machine.ShowsWait := by
  intro register waiting
  rw [running] at waiting
  cases waiting

/-- Timers that count down stop at zero. -/
lemma Machine.countDown_eq {machine : Machine} (hdelay : 0 ≤ machine.delay)
    (hsound : 0 ≤ machine.sound) :
    machine.countDown =
      { machine with delay := max (machine.delay - 1) 0, sound := max (machine.sound - 1) 0 } := by
  have hmax (timer : Int) (hnonneg : 0 ≤ timer) :
      (if 0 < timer then timer - 1 else timer) = max (timer - 1) 0 := by
    split <;> omega
  rw [countDown, hmax _ hdelay, hmax _ hsound]

namespace Console

variable {setup : Setup} {console left : Console} {instruction : Instruction} {flow : Flow}

/-! ## The parts that an instruction leaves -/

/-- Whatever an instruction leaves in I is a place of memory. -/
lemma indexLeft_bounds (setup : Setup) (wf : console.machine.WellFormed)
    (instruction : Instruction) :
    0 ≤ console.indexLeft setup instruction ∧ console.indexLeft setup instruction ≤ 0xFFF := by
  have hnonneg := wf.index_nonneg
  have hle := wf.index_le
  cases instruction
  case store x | load x =>
    simp only [indexLeft, indexAfter, memorySize]
    split <;> omega
  all_goals
    simp only [indexLeft, memorySize]
    omega

/-- Wherever an instruction leaves the program counter, it is not far beyond memory; one that lets
the machine move on leaves it close behind the last word at most. -/
lemma pcAfter_bounds (wf : console.machine.WellFormed)
    (fetched : console.machine.PointsAt instruction.word)
    (effect : Effect setup console instruction flow left) :
    0 ≤ console.pcAfter instruction ∧ console.pcAfter instruction ≤ 0x10FE ∧
      (instruction.flow ≠ .jumped → console.pcAfter instruction ≤ 0x1000) := by
  obtain ⟨hnonneg, hle⟩ := fetched.pc_le
  cases instruction
  case ret =>
    obtain ⟨hpos, hdepth, -, -⟩ := effect.returned rfl
    have htop : console.machine.depth - 1 < stackSize := by omega
    have hentry : console.machine.stack[console.machine.depth - 1] ≤ 0xFFE :=
      wf.calls_le ⟨console.machine.depth - 1, htop⟩ (by simp only; omega)
    rw [pcAfter_ret htop]
    simp only [Instruction.flow]
    omega
  case jump target | call target =>
    simp only [pcAfter, Instruction.flow]
    omega
  case jumpOffset base =>
    have hbyte := (console.machine.register Register.zero).toNat_lt
    simp only [pcAfter]
    exact ⟨by omega, by omega, fun hflow => absurd rfl hflow⟩
  all_goals
    simp only [pcAfter]
    split <;> omega

/-- A timer that is counted down stays within a byte. -/
lemma countDown_bounds {timer : Int} (hnonneg : 0 ≤ timer) (hle : timer ≤ 255) :
    0 ≤ (if 0 < timer then timer - 1 else timer) ∧
      (if 0 < timer then timer - 1 else timer) ≤ 255 := by
  split <;> omega

lemma delayLeft_bounds (wf : console.machine.WellFormed) (instruction : Instruction) :
    0 ≤ console.delayLeft instruction ∧ console.delayLeft instruction ≤ 255 := by
  cases instruction
  case setDelay x =>
    have hbyte := (console.machine.register x).toNat_lt
    simp only [delayLeft]
    omega
  all_goals exact ⟨wf.delay_nonneg, wf.delay_le⟩

lemma soundLeft_bounds (wf : console.machine.WellFormed) (instruction : Instruction) :
    0 ≤ console.soundLeft instruction ∧ console.soundLeft instruction ≤ 255 := by
  cases instruction
  case setSound x =>
    have hbyte := (console.machine.register x).toNat_lt
    simp only [soundLeft]
    omega
  all_goals exact ⟨wf.sound_nonneg, wf.sound_le⟩

/-- **Return addresses stay readable:** a call can only be carried out where its own word was read,
and that is the place it puts on the stack. -/
lemma calls_le_left (wf : console.machine.WellFormed)
    (fetched : console.machine.PointsAt instruction.word)
    (effect : Effect setup console instruction flow left) :
    left.machine.depth ≤ stackSize ∧
      ∀ position : Fin stackSize, position < left.machine.depth →
        left.machine.stack[position] ≤ 0xFFE := by
  have hdepth := wf.depth_le
  have hcalls := wf.calls_le
  by_cases hcall : ∃ target, instruction = .call target
  · obtain ⟨target, rfl⟩ := hcall
    obtain ⟨hroom, hstack, hleft⟩ := effect.called target rfl
    refine ⟨by omega, fun position hlt => ?_⟩
    have hplace := fetched.pc_le
    simp only [hstack, Fin.getElem_fin, Vector.getElem_set]
    split
    · omega
    · exact hcalls position (by omega)
  · simp only [not_exists] at hcall
    by_cases hret : instruction = .ret
    · obtain ⟨-, -, hstack, hleft⟩ := effect.returned hret
      exact ⟨by omega, fun position hlt => hstack ▸ hcalls position (by omega)⟩
    · obtain ⟨hstack, hleft⟩ := effect.stacked hcall hret
      exact ⟨by omega, fun position hlt => hstack ▸ hcalls position (by omega)⟩

/-- The program counter after an instruction. -/
lemma pc_finish_bounds (wf : console.machine.WellFormed)
    (fetched : console.machine.PointsAt instruction.word)
    (effect : Effect setup console instruction instruction.flow left) :
    0 ≤ (finish instruction.flow left).machine.pc ∧
      (finish instruction.flow left).machine.pc ≤ 0x10FE := by
  obtain ⟨hnonneg, hfar, hnear⟩ := pcAfter_bounds wf fetched effect
  simp only [finish, effect.pc_eq]
  split
  · exact ⟨hnonneg, hfar⟩
  · have := hnear ‹_›
    omega

/-! ## Every action keeps a console well-formed -/

/-- A machine that starts to wait stays where the instruction is that makes it wait. -/
lemma pc_le_of_waiting (running : console.machine.activity = .running)
    (fetched : console.machine.PointsAt instruction.word)
    (effect : Effect setup console instruction instruction.flow left) {register : Register}
    (waiting : left.machine.activity = .awaitingKey register) :
    instruction = .awaitKey register ∧
      (finish instruction.flow left).machine.pc = console.machine.pc := by
  by_cases hwait : ∃ x, instruction = .awaitKey x
  · obtain ⟨x, rfl⟩ := hwait
    rw [(effect.awaited x rfl).1] at waiting
    cases waiting
    refine ⟨rfl, ?_⟩
    simp only [finish, effect.pc_eq]
    rfl
  · simp only [not_exists] at hwait
    rw [(effect.running hwait).1, running] at waiting
    cases waiting

/-- What an instruction leaves behind is well-formed once the cycle is finished. -/
lemma wellFormed_finish (wf : console.WellFormed)
    (running : console.machine.activity = .running)
    (fetched : console.machine.PointsAt instruction.word)
    (effect : Effect setup console instruction instruction.flow left) :
    (finish instruction.flow left).WellFormed := by
  obtain ⟨hpc_nonneg, hpc_le⟩ := pc_finish_bounds wf.machine fetched effect
  obtain ⟨hdepth, hcalls⟩ := calls_le_left wf.machine fetched effect
  obtain ⟨hindex_nonneg, hindex_le⟩ := indexLeft_bounds setup wf.machine instruction
  obtain ⟨hdelay_nonneg, hdelay_le⟩ := delayLeft_bounds wf.machine instruction
  obtain ⟨hsound_nonneg, hsound_le⟩ := soundLeft_bounds wf.machine instruction
  constructor
  · exact {
      index_nonneg := effect.index_eq ▸ hindex_nonneg
      index_le := effect.index_eq ▸ hindex_le
      depth_le := hdepth
      calls_le := hcalls
      delay_nonneg := by
        simpa only [finish, Machine.countDown, effect.delay_eq] using
          (countDown_bounds hdelay_nonneg hdelay_le).1
      delay_le := by
        simpa only [finish, Machine.countDown, effect.delay_eq] using
          (countDown_bounds hdelay_nonneg hdelay_le).2
      sound_nonneg := by
        simpa only [finish, Machine.countDown, effect.sound_eq] using
          (countDown_bounds hsound_nonneg hsound_le).1
      sound_le := by
        simpa only [finish, Machine.countDown, effect.sound_eq] using
          (countDown_bounds hsound_nonneg hsound_le).2
      pc_nonneg := hpc_nonneg
      pc_le := by omega
      pc_of_waiting := fun register waiting => by
        rw [(pc_le_of_waiting running fetched effect waiting).2]
        exact fetched.pc_le.2 }
  · intro number hnumber
    simp only [finish] at hnumber
    by_cases hwait : ∃ x, instruction = .awaitKey x
    · obtain ⟨x, hx⟩ := hwait
      rw [(effect.awaited x hx).2] at hnumber
      cases hnumber
    · simp only [not_exists] at hwait
      rw [(effect.running hwait).2] at hnumber
      exact wf.typed number hnumber

/-- A digit that ends a wait leaves the console well-formed. -/
lemma wellFormed_answered (wf : console.WellFormed) {register digit : Fin 16}
    (waiting : console.machine.activity = .awaitingKey register) :
    (finish .next { console with
      machine :=
        { console.machine.setRegister register (UInt8.ofNat digit) with activity := .running }
      keypad := console.keypad.takeTyped.2 }).WellFormed := by
  have hnonneg := wf.machine.pc_nonneg
  have hle := wf.machine.pc_of_waiting register waiting
  obtain ⟨hdelay_nonneg, hdelay_le⟩ :=
    countDown_bounds wf.machine.delay_nonneg wf.machine.delay_le
  obtain ⟨hsound_nonneg, hsound_le⟩ :=
    countDown_bounds wf.machine.sound_nonneg wf.machine.sound_le
  constructor
  · exact {
      index_nonneg := wf.machine.index_nonneg
      index_le := wf.machine.index_le
      depth_le := wf.machine.depth_le
      calls_le := wf.machine.calls_le
      delay_nonneg := hdelay_nonneg
      delay_le := hdelay_le
      sound_nonneg := hsound_nonneg
      sound_le := hsound_le
      pc_nonneg := by
        simp only [finish, Machine.setRegister, reduceCtorEq, if_false]
        omega
      pc_le := by
        simp only [finish, Machine.setRegister, reduceCtorEq, if_false]
        omega
      pc_of_waiting := fun _ h => by cases h }
  · intro number hnumber
    cases hnumber

/-- A skip leaves the program counter within 16 bits. -/
lemma advance_bounds (machine : Machine) :
    0 ≤ machine.advance.pc ∧ machine.advance.pc ≤ 0xFFFF := by
  simp only [Machine.advance]
  omega

/-- A program changes memory and nothing else. -/
lemma load_getD (machine : Machine) (program : List UInt8) :
    ∃ memory, (machine.load program).getD machine = { machine with memory } := by
  unfold Machine.load
  split
  · exact ⟨_, rfl⟩
  · exact ⟨machine.memory, rfl⟩

/-- **Every action keeps a console well-formed.** -/
theorem WellFormed.act (wf : console.WellFormed) (action : Action) :
    (console.act setup action).WellFormed := by
  cases action with
  | cycle =>
      have hcycle := cycle_step setup wf
      simp only [Console.act]
      generalize console.step setup = outcome at hcycle ⊢
      cases hcycle with
      | idle register waiting silent => exact wf
      | answered register digit waiting typed => exact wellFormed_answered wf waiting
      | refused fault running met => exact wf
      | executed instruction trace left running fetched sound effect =>
          exact wellFormed_finish wf running fetched effect
  | skip =>
      obtain ⟨hnonneg, hle⟩ := advance_bounds console.machine
      have hmachine := wf.machine
      exact ⟨{ hmachine with
        pc_nonneg := hnonneg
        pc_le := hle
        pc_of_waiting := fun _ h => by cases h }, wf.typed⟩
  | load program =>
      obtain ⟨memory, hload⟩ := load_getD console.machine program
      have hmachine := wf.machine
      simp only [Console.act, hload]
      exact ⟨{ hmachine with }, wf.typed⟩
  | reset => exact ⟨Machine.wellFormed_powerOn, wf.typed⟩
  | press key =>
      refine ⟨wf.machine, fun number hnumber => ?_⟩
      cases hnumber
      exact ⟨by omega, by omega⟩
  | release key => exact ⟨wf.machine, wf.typed⟩
  | clearKeys => exact ⟨wf.machine, fun _ h => by cases h⟩
  | takeTyped => exact ⟨wf.machine, fun _ h => by cases h⟩

/-- **Every run keeps a console well-formed.** -/
theorem WellFormed.acts (wf : console.WellFormed) (actions : List Action) :
    (console.acts setup actions).WellFormed :=
  acts_induction (fun action _ _ h => h.act action) wf

/-- The console as it is switched on is well-formed. -/
lemma wellFormed_powerOn : ({} : Console).WellFormed :=
  ⟨Machine.wellFormed_powerOn, fun _ h => by cases h⟩

/-- **Every reachable console is well-formed.** -/
theorem Reachable.wellFormed (reach : Reachable setup console) : console.WellFormed := by
  obtain ⟨actions, rfl⟩ := reachable_iff.mp reach
  exact wellFormed_powerOn.acts actions

end Console

/-- **Every reachable machine is well-formed.** -/
theorem Machine.Reachable.wellFormed {machine : Machine} (reach : machine.Reachable) :
    machine.WellFormed := by
  obtain ⟨setup, console, hreach, rfl⟩ := reach
  exact hreach.wellFormed.machine

namespace Console

variable {setup : Setup} {console : Console} {actions : List Action}

/-! ## The program counter without skips -/

/-- **Only a skip takes the program counter far beyond memory.** -/
lemma pc_le_act (wf : console.WellFormed) (hpc : console.machine.pc ≤ 0x10FE) {action : Action}
    (hskip : action ≠ .skip) : (console.act setup action).machine.pc ≤ 0x10FE := by
  cases action with
  | cycle =>
      have hcycle := cycle_step setup wf
      simp only [Console.act]
      generalize console.step setup = outcome at hcycle ⊢
      cases hcycle with
      | idle register waiting silent => exact hpc
      | answered register digit waiting typed =>
          have hnonneg := wf.machine.pc_nonneg
          have hle := wf.machine.pc_of_waiting register waiting
          simp only [Outcome.left, finish, Machine.setRegister, reduceCtorEq, if_false]
          omega
      | refused fault running met => exact hpc
      | executed instruction trace left running fetched sound effect =>
          exact (pc_finish_bounds wf.machine fetched effect).2
  | skip => exact absurd rfl hskip
  | load program =>
      obtain ⟨memory, hload⟩ := load_getD console.machine program
      simpa only [Console.act, hload] using hpc
  | reset =>
      simp only [Console.act]
      decide
  | press key => exact hpc
  | release key => exact hpc
  | clearKeys => exact hpc
  | takeTyped => exact hpc

/-- Without a skip the program counter stays close to memory. -/
lemma pc_le_acts (wf : console.WellFormed) (hpc : console.machine.pc ≤ 0x10FE)
    (hskip : .skip ∉ actions) : (console.acts setup actions).machine.pc ≤ 0x10FE := by
  have keep : ∀ action ∈ actions, ∀ other : Console,
      other.WellFormed ∧ other.machine.pc ≤ 0x10FE →
        (other.act setup action).WellFormed ∧ (other.act setup action).machine.pc ≤ 0x10FE := by
    rintro action hmem other ⟨hother, hle⟩
    have hne : action ≠ .skip := fun heq => hskip (heq ▸ hmem)
    exact ⟨hother.act action, pc_le_act hother hle hne⟩
  exact (acts_induction keep ⟨wf, hpc⟩).2

/-! ## Waits -/

/-- **Only a program put into memory hides the instruction that a machine waits for.** -/
lemma showsWait_act (wf : console.WellFormed) (shows : console.machine.ShowsWait) {action : Action}
    (hload : ∀ program, action ≠ .load program) :
    (console.act setup action).machine.ShowsWait := by
  cases action with
  | cycle =>
      have hcycle := cycle_step setup wf
      simp only [Console.act]
      generalize console.step setup = outcome at hcycle ⊢
      cases hcycle with
      | idle register waiting silent => exact shows
      | answered register digit waiting typed => exact .of_running rfl
      | refused fault running met => exact shows
      | executed instruction trace left running fetched sound effect =>
          intro register waiting
          obtain ⟨rfl, hstays⟩ := pc_le_of_waiting running fetched effect waiting
          have hmemory := effect.memory_eq (fun _ h => by cases h) (fun _ h => by cases h)
          exact fetched.of_eq hstays hmemory
  | skip => exact .of_running rfl
  | load program => exact absurd rfl (hload program)
  | reset => exact .of_running rfl
  | press key => exact shows
  | release key => exact shows
  | clearKeys => exact shows
  | takeTyped => exact shows

/-- Without a program put into memory a wait stays in view. -/
lemma showsWait_acts (wf : console.WellFormed) (shows : console.machine.ShowsWait)
    (hload : ∀ program, .load program ∉ actions) :
    (console.acts setup actions).machine.ShowsWait := by
  have keep : ∀ action ∈ actions, ∀ other : Console,
      other.WellFormed ∧ other.machine.ShowsWait →
        (other.act setup action).WellFormed ∧ (other.act setup action).machine.ShowsWait := by
    rintro action hmem other ⟨hother, hshows⟩
    have hne : ∀ program, action ≠ .load program := fun program heq => hload program (heq ▸ hmem)
    exact ⟨hother.act action, showsWait_act hother hshows hne⟩
  exact (acts_induction keep ⟨wf, shows⟩).2

end Console

namespace Session

/-- An orderly operation keeps a console well-formed. -/
lemma wellFormed_perform {operation : Operation} {session : Session}
    (orderly : operation.IsOrderly) (wf : session.console.WellFormed) :
    (session.perform operation).session.console.WellFormed := by
  rw [perform_console orderly]
  exact wf.acts _

/-- Orderly operations keep a console well-formed. -/
lemma wellFormed_performAll {operations : List Operation} {session : Session}
    (orderly : ∀ operation ∈ operations, operation.IsOrderly)
    (wf : session.console.WellFormed) :
    (performAll operations session).2.console.WellFormed := by
  rw [performAll_console orderly]
  exact wf.acts _

end Session

end ChipEight
