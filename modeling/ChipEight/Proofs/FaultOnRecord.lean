import ChipEight.Proofs.Pacing

/-!
# The fault on record

A refused cycle leaves the machine where it is, so the next cycle meets the same fault.  Nothing that
a host does short of a skip, another program or a reset helps: no key changes a fault, and neither do
more steps, frames or pauses.  The fault that a pacer has on record is always the one that its
console still stands at.

* `Console.StandsAt` — the machine runs and its next cycle meets a fault.
* `Console.step_faulted_iff_standsAt` — that is when a cycle is refused.
* `Console.StandsAt.act`, `Console.StandsAt.acts` — cycles and keys leave it there.
* `Paced.Truthful`, `Paced.truthful_perform` — a fault on record is one that the console stands at,
  whatever the pacer is told.
* **`Session.fault_until_skipped`** — the same for whole sessions, and what a skip does about it.
-/

namespace ChipEight

namespace Console

variable {setup : Setup} {console left : Console} {fault : Fault} {action : Action}
  {actions : List Action}

/-- **The console stands at a fault:** the machine runs, and its next cycle meets the fault. -/
def StandsAt (setup : Setup) (console : Console) (fault : Fault) : Prop :=
  console.machine.activity = .running ∧ console.machine.fault? setup.dialect = some fault

/-- **A cycle is refused just where the console stands at a fault,** and leaves it there. -/
theorem step_faulted_iff_standsAt (wf : console.WellFormed) :
    console.step setup = .faulted fault left ↔ console.StandsAt setup fault ∧ left = console := by
  constructor
  · intro h
    have hcycle := cycle_step setup wf
    rw [h] at hcycle
    cases hcycle with
    | refused fault running met => exact ⟨⟨running, met⟩, rfl⟩
  · rintro ⟨⟨running, met⟩, rfl⟩
    exact step_of_fault? wf.machine.pc_nonneg running met

/-- Where a console stands depends on its machine alone. -/
lemma StandsAt.of_machine_eq (stands : console.StandsAt setup fault)
    (hmachine : left.machine = console.machine) : left.StandsAt setup fault := by
  rw [StandsAt, hmachine]
  exact stands

/-- **Cycles and keys leave a machine that stands at a fault as it is.** -/
theorem StandsAt.act (wf : console.WellFormed) (stands : console.StandsAt setup fault)
    (play : action.IsPlay) : (console.act setup action).machine = console.machine := by
  cases action with
  | cycle => rw [Console.act, (step_faulted_iff_standsAt wf).mpr ⟨stands, rfl⟩, Outcome.left]
  | skip => exact play.elim
  | load program => exact play.elim
  | reset => exact play.elim
  | press key => rfl
  | release key => rfl
  | clearKeys => rfl
  | takeTyped => rfl

/-- Any number of them leave it as it is. -/
theorem StandsAt.acts (wf : console.WellFormed) (stands : console.StandsAt setup fault)
    (play : ∀ action ∈ actions, action.IsPlay) :
    (console.acts setup actions).machine = console.machine := by
  induction actions generalizing console with
  | nil => rfl
  | cons action rest ih =>
      have hfirst := stands.act wf (play action List.mem_cons_self)
      have hrest := ih (wf.act action) (stands.of_machine_eq hfirst)
        fun other hmem => play other (List.mem_cons_of_mem _ hmem)
      rw [acts_cons, hrest, hfirst]

end Console

namespace Paced

variable {setup : Setup} {paced : Paced}

/-- **The record is true:** a pacer with a fault on record is paused, and its console stands at that
fault. -/
def Truthful (setup : Setup) (paced : Paced) : Prop :=
  ∀ fault, paced.pacer.fault = some fault →
    paced.pacer.paused = true ∧ paced.console.StandsAt setup fault

/-- Nothing on record is true. -/
lemma Truthful.of_none (calm : paced.pacer.fault = none) : paced.Truthful setup := by
  intro fault hfault
  rw [calm] at hfault
  cases hfault

/-- **An attempted cycle keeps the record true.**  Where a fault is on record the cycle cannot be
carried out, and one that is refused puts on record what it was refused for. -/
lemma truthful_attempt (wf : paced.console.WellFormed) (truthful : paced.Truthful setup) :
    (paced.attempt setup).Truthful setup := by
  have hcycle := Console.cycle_step setup wf
  rw [attempt]
  generalize paced.console.step setup = outcome at hcycle ⊢
  cases hcycle with
  | idle register waiting silent => exact truthful
  | answered register digit waiting typed =>
      intro fault hfault
      obtain ⟨-, running, -⟩ := truthful fault hfault
      rw [waiting] at running
      cases running
  | refused fault running met =>
      intro other hother
      cases hother
      exact ⟨rfl, running, met⟩
  | executed instruction trace left running fetched sound effect =>
      intro fault hfault
      rw [Pacer.fault_settle] at hfault
      obtain ⟨-, -, met⟩ := truthful fault hfault
      rw [sound] at met
      cases met

/-- **Whatever a pacer is told, its record stays true.** -/
theorem truthful_perform (wf : paced.console.WellFormed) (truthful : paced.Truthful setup)
    (command : Pacer.Command) : (perform setup command paced).1.Truthful setup := by
  have hrun : command = .runFrame ∨ command = .stepOnce →
      (perform setup command paced).1.Truthful setup := fun runs =>
    perform_run_induction (fun _ hnext h => truthful_attempt hnext h) wf runs truthful
  cases command
  case runFrame => exact hrun (Or.inl rfl)
  case stepOnce => exact hrun (Or.inr rfl)
  case skip => exact .of_none (by rw [perform, present_fst]; rfl)
  case resume => exact .of_none rfl
  case pause => exact fun fault hfault => ⟨rfl, (truthful fault hfault).2⟩
  case togglePause =>
    rw [perform]
    split
    · exact .of_none rfl
    · exact fun fault hfault => ⟨rfl, (truthful fault hfault).2⟩
  case setBudget | resetCount => exact truthful

end Paced

namespace Session

variable {session : Session} {pacer : Pacer}

/-- An orderly operation that neither puts a program into memory nor switches the machine off. -/
def Operation.KeepsProgram (operation : Operation) : Prop :=
  operation.IsOrderly ∧ (∀ program, operation ≠ .load program) ∧ operation ≠ .reset

/-- The fault that a session has on record is true. -/
def Truthful (session : Session) : Prop :=
  ∀ pacer, session.pacer = some pacer →
    Paced.Truthful session.setup { console := session.console, pacer }

/-- Unless it is a skip, such an operation consists of cycles and of what happens to the keypad. -/
lemma isPlay_of_mem_actions {operation : Operation} (keeps : operation.KeepsProgram)
    (hskip : operation ≠ .pace .skip) {action : Action} (hmem : action ∈ session.actions operation) :
    action.IsPlay := by
  obtain ⟨-, hload, hreset⟩ := keeps
  cases operation
  case load program => exact absurd rfl (hload program)
  case reset => exact absurd rfl hreset
  case run count =>
    obtain rfl := List.eq_of_mem_replicate hmem
    trivial
  case press key | release key =>
    obtain ⟨place, -, rfl⟩ := Option.map_eq_some_iff.mp (Option.mem_toList.mp hmem)
    trivial
  case step | clearKeys | typed =>
    obtain rfl := List.mem_singleton.mp hmem
    trivial
  case pace command =>
    have hcommand : command ≠ .skip := fun heq => hskip (heq ▸ rfl)
    simp only [actions] at hmem
    split at hmem
    · cases hmem
    · rw [Paced.actions, if_neg hcommand] at hmem
      obtain ⟨event, -, hevent⟩ := List.mem_filterMap.mp hmem
      cases event with
      | presented picture => cases hevent
      | ran | faulted | stuck =>
          cases hevent
          trivial
  all_goals cases hmem

/-- **An operation that keeps the program keeps the record true.** -/
lemma Truthful.perform {operation : Operation} (wf : session.console.WellFormed)
    (truthful : session.Truthful) (keeps : operation.KeepsProgram) :
    (session.perform operation).session.Truthful := by
  intro after hafter
  rw [perform_setup]
  by_cases hpace : ∃ command, operation = .pace command
  · obtain ⟨command, rfl⟩ := hpace
    obtain ⟨pacer, hpacer⟩ : ∃ pacer, session.pacer = some pacer := by
      cases hpacer : session.pacer with
      | some pacer => exact ⟨pacer, rfl⟩
      | none =>
          simp only [Session.perform, pace, hpacer, look] at hafter
          cases hafter
    obtain ⟨hconsole, hdone⟩ := perform_pace_paced hpacer command
    obtain rfl := Option.some.inj (hdone.symm.trans hafter)
    rw [hconsole]
    exact Paced.truthful_perform wf (truthful pacer hpacer) command
  · have hplain := not_exists.mp hpace
    rw [perform_pacer hplain] at hafter
    intro fault hfault
    obtain ⟨hpaused, stands⟩ := truthful after hafter fault hfault
    refine ⟨hpaused, stands.of_machine_eq ?_⟩
    rw [perform_console keeps.1]
    exact stands.acts wf fun action => isPlay_of_mem_actions keeps (hplain .skip)

/-- Operations that keep the program keep the record true. -/
theorem Truthful.performAll {operations : List Operation} (wf : session.console.WellFormed)
    (truthful : session.Truthful) (keeps : ∀ operation ∈ operations, operation.KeepsProgram) :
    (performAll operations session).2.Truthful := by
  induction operations generalizing session with
  | nil => exact truthful
  | cons operation rest ih =>
      have hfirst := keeps operation List.mem_cons_self
      exact ih (wellFormed_perform hfirst.1 wf) (truthful.perform wf hfirst)
        fun other hmem => keeps other (List.mem_cons_of_mem _ hmem)

/-- Without a skip, operations that keep the program consist of cycles and of what happens to the
keypad. -/
lemma isPlay_of_mem_allActions {operations : List Operation}
    (keeps : ∀ operation ∈ operations, operation.KeepsProgram)
    (hskip : .pace .skip ∉ operations) {action : Action}
    (hmem : action ∈ allActions operations session) : action.IsPlay := by
  induction operations generalizing session with
  | nil => cases hmem
  | cons operation rest ih =>
      rw [List.mem_cons, not_or] at hskip
      rcases List.mem_append.mp hmem with hfirst | hrest
      · exact isPlay_of_mem_actions (keeps operation List.mem_cons_self) (Ne.symm hskip.1) hfirst
      · exact ih (fun other h => keeps other (List.mem_cons_of_mem _ h)) hskip.2 hrest

/-- **A fault stays true until it is skipped.**  Let a session with a pacer, and with no fault on
record, be in any state that a host can bring about, and let the host go on in any way that keeps the
program.

* If there is a fault on record then, the pacer is paused, and the next cycle is refused with just
  that fault and leaves everything as it is.
* However the host goes on from there without a skip, the machine stays as it is, and every cycle
  that is attempted is refused with that fault.
* A skip moves the program counter on by two within 16 bits, ends a wait, takes the fault off the
  record and leaves the pacer paused; it changes nothing else. -/
theorem fault_until_skipped (reach : Console.Reachable session.setup session.console)
    (hpacer : session.pacer = some pacer) (calm : pacer.fault = none)
    {operations : List Operation} (keeps : ∀ operation ∈ operations, operation.KeepsProgram) :
    let now := (performAll operations session).2
    ∃ after, now.pacer = some after ∧
      (∀ fault, after.fault = some fault →
        after.paused = true ∧ now.console.step now.setup = .faulted fault now.console ∧
          ∀ further, (∀ operation ∈ further, operation.KeepsProgram) →
            .pace .skip ∉ further →
            ∀ first last, allActions further now = first ++ .cycle :: last →
              let here := now.console.acts now.setup first
              here.machine = now.console.machine ∧
                here.step now.setup = .faulted fault here) ∧
      let skipped := (now.perform (.pace .skip)).session
      skipped.console = { now.console with
          machine := { now.console.machine with
            pc := (now.console.machine.pc + 2) % 65536
            activity := .running } } ∧
        skipped.pacer = some { after with fault := none, paused := true } := by
  intro now
  have wf : now.console.WellFormed :=
    wellFormed_performAll (fun operation hmem => (keeps operation hmem).1) reach.wellFormed
  have hcalm : session.Truthful := by
    intro other hother
    obtain rfl := Option.some.inj (hpacer.symm.trans hother)
    exact .of_none calm
  have truthful : now.Truthful := hcalm.performAll reach.wellFormed keeps
  obtain ⟨after, hafter⟩ : ∃ after, now.pacer = some after :=
    Option.isSome_iff_exists.mp (isSome_pacer_performAll operations (by rw [hpacer]; rfl))
  refine ⟨after, hafter, fun fault hfault => ?_, perform_pace_paced hafter .skip⟩
  obtain ⟨hpaused, stands⟩ := truthful after hafter fault hfault
  refine ⟨hpaused, (Console.step_faulted_iff_standsAt wf).mpr ⟨stands, rfl⟩, ?_⟩
  intro further hfurther hskip first last hsplit here
  have play : ∀ action ∈ first, action.IsPlay := fun action hmem =>
    isPlay_of_mem_allActions hfurther hskip (hsplit ▸ List.mem_append_left _ hmem)
  have hmachine : here.machine = now.console.machine := stands.acts wf play
  have hstands : here.StandsAt now.setup fault := stands.of_machine_eq hmachine
  exact ⟨hmachine, (Console.step_faulted_iff_standsAt (wf.acts first)).mpr ⟨hstands, rfl⟩⟩

/-- `E39E` with 32 in V3, which names no key.  The host presses a key and lets the pacer go on, then
lets the key go and steps, and the fault is the same each time.  A skip leads to `0x204`. -/
theorem fault_until_skipped_key_test :
    let console := ({} : Console).acts {} [.load [0x63, 0x20, 0xE3, 0x9E]]
    let operations : List Operation := [.pace .runFrame, .pace .runFrame]
    let further : List Operation :=
      [.press 3, .pace .resume, .pace .runFrame, .release 3, .pace .stepOnce]
    let fault := Fault.notAKey 0xE39E 3 0x20
    let now := (performAll operations { console, pacer := some {} }).2
    let last := now.console.acts now.setup [.press 3, .cycle, .release 3]
    now.pacer.map Pacer.fault = some (some fault) ∧ now.pacer.map Pacer.paused = some true ∧
      now.console.step now.setup = .faulted fault now.console ∧
      allActions further now = [.press 3, .cycle, .release 3, .cycle] ∧
      last.machine = now.console.machine ∧ last.step now.setup = .faulted fault last ∧
      (now.perform (.pace .skip)).session.console.machine.pc = 0x204 := by
  intro console operations further fault now last
  have reach : Console.Reachable {} console := Console.reachable_iff.mpr ⟨_, rfl⟩
  have keeps : ∀ operation ∈ operations ++ further, operation.KeepsProgram := by
    simp [operations, further, Operation.KeepsProgram, Operation.IsOrderly]
  obtain ⟨after, hpacer, hfault, hskipped, -⟩ :=
    @fault_until_skipped { console, pacer := some {} } {} reach rfl rfl operations
      fun operation hmem => keeps operation (List.mem_append_left further hmem)
  have hafter : now.pacer = some after := hpacer
  obtain ⟨hrecord, hactions, hpc⟩ : now.pacer.map Pacer.fault = some (some fault) ∧
      allActions further now = [.press 3] ++ .cycle :: [.release 3] ++ .cycle :: [] ∧
      now.console.machine.pc = 0x202 := by
    decide +kernel
  have hmet : after.fault = some fault := by
    simpa only [hafter, Option.map_some, Option.some.injEq] using hrecord
  obtain ⟨hpaused, hstep, hfurther⟩ := hfault fault hmet
  obtain ⟨hmachine, hagain⟩ := hfurther further
    (fun operation hmem => keeps operation (List.mem_append_right operations hmem))
    (by simp [further]) _ [] hactions
  have hskip : (now.perform (.pace .skip)).session.console.machine.pc =
      (now.console.machine.pc + 2) % 65536 := congrArg (fun console => console.machine.pc) hskipped
  refine ⟨hrecord, by rw [hafter, Option.map_some, hpaused], hstep, hactions, hmachine, hagain, ?_⟩
  rw [hskip, hpc]
  rfl

end Session

end ChipEight
