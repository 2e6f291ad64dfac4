import ChipEight.Proofs.FaultOnRecord
import ChipEight.Proofs.Footprint

/-!
# The timers

Both timers count down by one in every cycle that is executed, as far as zero, and each has one
instruction that sets it.  So what a timer shows is the value from which it has counted down, less
the executed cycles since then.

* `Timer`, `Timer.setting` — the two timers and the instructions that set them.
* `Console.executedCycles` — how many of some actions are executed cycles, and
  `Console.executes_cycle_iff`, which says what those are.
* `Console.timer_act_of_setting`, `Console.timer_act_of_not_setting` — a timer after one action.
* `Console.timer_acts` — a timer after any actions that do not set it.
* `Console.exists_last_execution` — the last time that an instruction of a kind was carried out.
* **`Console.timer_law`**, **`Session.timer_law_of_run`** — a timer after any actions without a
  reset, and in any run.
-/

namespace ChipEight

/-- The two timers. -/
inductive Timer where
  | delay
  | sound
  deriving DecidableEq

/-- The instruction that sets a timer from a register. -/
def Timer.setting : Timer → Register → Instruction
  | .delay => .setDelay
  | .sound => .setSound

/-- What a timer shows. -/
def Machine.timer (machine : Machine) : Timer → Int
  | .delay => machine.delay
  | .sound => machine.sound

namespace Console

variable {setup : Setup} {console : Console} {action : Action} {actions : List Action}
  {instruction : Instruction} {timer : Timer} {x : Register}

/-! ## Executed cycles -/

/-- Whether an action is a cycle that is executed: it is not refused, and it does not find a wait
with nothing typed. -/
def executes (setup : Setup) (console : Console) : Action → Bool
  | .cycle => (console.step setup).isExecuted
  | _ => false

/-- **How many of some actions are executed cycles.** -/
def executedCycles (setup : Setup) : Console → List Action → Nat
  | _, [] => 0
  | console, action :: rest =>
    (console.executes setup action).toNat + executedCycles setup (console.act setup action) rest

/-- **A cycle is executed just if it carries out an instruction or answers a wait.** -/
theorem executes_cycle_iff (wf : console.WellFormed) :
    console.executes setup .cycle = true ↔
      (console.executed? setup .cycle).isSome = true ∨
        console.machine.isWaiting = true ∧ console.keypad.typed.isSome = true := by
  have hcycle := cycle_step setup wf
  simp only [executes]
  generalize hstep : console.step setup = outcome at hcycle ⊢
  cases hcycle with
  | idle register waiting silent =>
      simp [executed?, waiting, silent, Outcome.isExecuted]
  | answered register digit waiting typed =>
      simp [executed?, waiting, typed, Outcome.isExecuted, Machine.isWaiting]
  | refused fault running met =>
      simp [executed?, running, hstep, Outcome.isExecuted, Machine.isWaiting]
  | executed instruction trace left running fetched sound effect =>
      simp [executed?_of_ran running fetched hstep, Outcome.isExecuted_ran_flow]

/-! ## One action -/

/-- What an instruction leaves in a timer, before that is counted down. -/
def timerLeft (console : Console) (timer : Timer) (instruction : Instruction) : Int :=
  match timer with
  | .delay => console.delayLeft instruction
  | .sound => console.soundLeft instruction

lemma timerLeft_setting (console : Console) (timer : Timer) (x : Register) :
    console.timerLeft timer (timer.setting x) = (console.machine.register x).toNat := by
  cases timer <;> rfl

lemma timerLeft_of_not_setting (h : ∀ x, instruction ≠ timer.setting x) :
    console.timerLeft timer instruction = console.machine.timer timer := by
  cases timer with
  | delay =>
      cases instruction
      case setDelay x => exact absurd rfl (h x)
      all_goals rfl
  | sound =>
      cases instruction
      case setSound x => exact absurd rfl (h x)
      all_goals rfl

lemma timer_nonneg (wf : console.machine.WellFormed) (timer : Timer) :
    0 ≤ console.machine.timer timer := by
  cases timer with
  | delay => exact wf.delay_nonneg
  | sound => exact wf.sound_nonneg

/-- **A timer after a cycle that carries out an instruction** has counted down from what the
instruction left in it. -/
lemma timer_act_of_executed? (wf : console.WellFormed)
    (h : console.executed? setup .cycle = some instruction) (timer : Timer) :
    (console.act setup .cycle).machine.timer timer =
      max (console.timerLeft timer instruction - 1) 0 := by
  rcases exists_effect_of_executed? wf h with ⟨left, -, -, effect, hact⟩
  have htimers := effect.countDown_eq wf.machine
  rw [hact]
  cases timer with
  | delay => simp only [Machine.timer, timerLeft, finish, htimers]
  | sound => simp only [Machine.timer, timerLeft, finish, htimers]

/-- **A timer that is set in a cycle** has counted down once behind it. -/
lemma timer_act_of_setting (wf : console.WellFormed)
    (h : console.executed? setup .cycle = some (timer.setting x)) :
    (console.act setup .cycle).machine.timer timer =
      max ((console.machine.register x).toNat - 1 : Int) 0 := by
  rw [timer_act_of_executed? wf h, timerLeft_setting]

/-- **A timer that is not set by an action** counts down if that is an executed cycle. -/
lemma timer_act_of_not_setting (wf : console.WellFormed) (hreset : action ≠ .reset)
    (h : ∀ x, console.executed? setup action ≠ some (timer.setting x)) :
    (console.act setup action).machine.timer timer =
      max (console.machine.timer timer - (console.executes setup action).toNat) 0 := by
  have hnonneg := timer_nonneg wf.machine timer
  have hstill (machine : Machine) (hdelay : machine.delay = console.machine.delay)
      (hsound : machine.sound = console.machine.sound) :
      machine.timer timer = max (console.machine.timer timer - 0) 0 := by
    have hsame : machine.timer timer = console.machine.timer timer := by
      cases timer with
      | delay => exact hdelay
      | sound => exact hsound
    omega
  cases action with
  | cycle =>
      cases hexecuted : console.executed? setup .cycle with
      | some instruction =>
          have hother : ∀ x, instruction ≠ timer.setting x :=
            fun x heq => h x (hexecuted.trans (congrArg some heq))
          have hcounts : console.executes setup .cycle = true :=
            (executes_cycle_iff wf).mpr (Or.inl (by rw [hexecuted]; rfl))
          rw [timer_act_of_executed? wf hexecuted, timerLeft_of_not_setting hother, hcounts]
          rfl
      | none =>
          have hcycle := cycle_step setup wf
          simp only [act, executes]
          generalize hstep : console.step setup = outcome at hcycle ⊢
          cases hcycle with
          | idle register waiting silent => exact hstill _ rfl rfl
          | answered register digit waiting typed =>
              have htimers :=
                Machine.countDown_eq wf.machine.delay_nonneg wf.machine.sound_nonneg
              cases timer with
              | delay => exact congrArg Machine.delay htimers
              | sound => exact congrArg Machine.sound htimers
          | refused fault running met => exact hstill _ rfl rfl
          | executed instruction trace left running fetched sound effect =>
              rw [executed?_of_ran running fetched hstep] at hexecuted
              cases hexecuted
  | reset => exact absurd rfl hreset
  | load program =>
      obtain ⟨memory, hload⟩ := load_getD console.machine program
      simp only [act, hload]
      exact hstill _ rfl rfl
  | skip | press key | release key | clearKeys | takeTyped => exact hstill _ rfl rfl

/-- **The delay timer is read as it is before the cycle counts it down.** -/
lemma register_of_readDelay (wf : console.WellFormed)
    (h : console.executed? setup .cycle = some (.readDelay x)) :
    ((console.act setup .cycle).machine.register x).toNat = console.machine.delay := by
  rcases exists_execute_of_executed? wf.machine.pc_nonneg h with ⟨trace, before, hran, hact⟩
  have hnonneg := wf.machine.delay_nonneg
  have hle := wf.machine.delay_le
  have hbyte : Numbering.byte? console.machine.delay =
      some (UInt8.ofNat console.machine.delay.toNat) := by
    rw [Numbering.byte?, if_pos ⟨hnonneg, by omega⟩]
  simp only [execute, hbyte, put, go] at hran
  cases hran
  rw [hact, register_finish, Machine.register_setRegister_self, UInt8.toNat_ofNat']
  omega

/-! ## Any actions -/

/-- **A timer that no action sets** counts down once for each executed cycle. -/
theorem timer_acts (wf : console.WellFormed) (hreset : .reset ∉ actions)
    (h : ∀ x, timer.setting x ∉ executions setup console actions) :
    (console.acts setup actions).machine.timer timer =
      max (console.machine.timer timer - executedCycles setup console actions) 0 := by
  induction actions generalizing console with
  | nil =>
      have hnonneg := timer_nonneg wf.machine timer
      simp only [acts_nil, executedCycles]
      omega
  | cons action rest ih =>
      rw [List.mem_cons, not_or] at hreset
      simp only [executions, List.mem_append, Option.mem_toList, not_or] at h
      have hfirst := timer_act_of_not_setting wf (Ne.symm hreset.1) fun x => (h x).1
      have hrest := ih (wf.act action) hreset.2 fun x => (h x).2
      rw [hfirst] at hrest
      simp only [acts_cons, executedCycles]
      omega

/-- **An instruction of a kind is never carried out, or there is a last time.** -/
lemma exists_last_execution (kind : Instruction → Prop) (setup : Setup) (console : Console)
    (actions : List Action) :
    (∀ instruction ∈ executions setup console actions, ¬ kind instruction) ∨
      ∃ first last instruction, actions = first ++ .cycle :: last ∧ kind instruction ∧
        (console.acts setup first).executed? setup .cycle = some instruction ∧
        ∀ later ∈ executions setup ((console.acts setup first).act setup .cycle) last,
          ¬ kind later := by
  induction actions generalizing console with
  | nil => exact Or.inl (by simp [executions])
  | cons action rest ih =>
      rcases ih (console.act setup action) with hnone | ⟨first, last, instruction, rfl, hlast⟩
      · by_cases hkind : ∃ instruction, console.executed? setup action = some instruction ∧
          kind instruction
        · obtain ⟨instruction, hexecuted, hkind⟩ := hkind
          obtain rfl := eq_cycle_of_executed? hexecuted
          exact Or.inr ⟨[], rest, instruction, rfl, hkind, hexecuted, hnone⟩
        · refine Or.inl fun instruction hmem => ?_
          rw [executions, List.mem_append, Option.mem_toList] at hmem
          rcases hmem with hfirst | hrest
          · exact fun h => hkind ⟨instruction, hfirst, h⟩
          · exact hnone instruction hrest
      · exact Or.inr ⟨action :: first, last, instruction, rfl, hlast⟩

/-- **A timer after any actions without a reset** has counted down for every executed cycle, from
where it was or from where it was last set. -/
theorem timer_law (wf : console.WellFormed) (hreset : .reset ∉ actions) (timer : Timer) :
    let now := console.acts setup actions
    (∀ x, timer.setting x ∉ executions setup console actions) ∧
        now.machine.timer timer =
          max (console.machine.timer timer - executedCycles setup console actions) 0 ∨
      ∃ first last x, actions = first ++ .cycle :: last ∧
        let here := console.acts setup first
        here.executed? setup .cycle = some (timer.setting x) ∧
          (∀ y, timer.setting y ∉ executions setup (here.act setup .cycle) last) ∧
          now.machine.timer timer =
            max ((here.machine.register x).toNat -
              executedCycles setup here (.cycle :: last) : Int) 0 := by
  intro now
  rcases exists_last_execution (fun instruction => ∃ x, instruction = timer.setting x) setup console
    actions with hnone | ⟨first, last, instruction, rfl, ⟨x, rfl⟩, hset, hlast⟩
  · have hunset : ∀ x, timer.setting x ∉ executions setup console actions :=
      fun x hmem => hnone _ hmem ⟨x, rfl⟩
    exact Or.inl ⟨hunset, timer_acts wf hreset hunset⟩
  · have hunset : ∀ y, timer.setting y ∉ executions setup
        ((console.acts setup first).act setup .cycle) last := fun y hmem => hlast _ hmem ⟨y, rfl⟩
    refine Or.inr ⟨first, last, x, rfl, hset, hunset, ?_⟩
    have hhere : (console.acts setup first).WellFormed := wf.acts first
    simp only [List.mem_append, List.mem_cons, not_or] at hreset
    have hrest := timer_acts (hhere.act .cycle) hreset.2.2 hunset
    rw [timer_act_of_setting hhere hset] at hrest
    have hcounts : (console.acts setup first).executes setup .cycle = true :=
      (executes_cycle_iff hhere).mpr (Or.inl (by rw [hset]; rfl))
    simp only [now, acts_append, acts_cons, executedCycles, hcounts, Bool.toNat_true]
    omega

end Console

namespace Session

variable {session : Session}

/-- Nothing but a reset resets the machine. -/
lemma reset_notMem_allActions {operations : List Operation}
    (orderly : ∀ operation ∈ operations, operation.IsOrderly) (hreset : .reset ∉ operations) :
    .reset ∉ allActions operations session := by
  induction operations generalizing session with
  | nil => simp [allActions]
  | cons operation rest ih =>
      rw [List.mem_cons, not_or] at hreset
      rw [allActions, List.mem_append, not_or]
      refine ⟨fun hmem => ?_, ih (fun other h => orderly other (List.mem_cons_of_mem _ h)) hreset.2⟩
      by_cases hload : ∃ program, operation = .load program
      · obtain ⟨program, rfl⟩ := hload
        simp [actions] at hmem
      · by_cases hskip : operation = .pace .skip
        · subst hskip
          simp only [actions, Paced.actions] at hmem
          split at hmem <;> simp at hmem
        · have keeps : operation.KeepsProgram :=
            ⟨orderly operation List.mem_cons_self, not_exists.mp hload, Ne.symm hreset.1⟩
          exact isPlay_of_mem_actions keeps hskip hmem

/-- Neither a skip nor a frame in a pause executes a cycle. -/
lemma executedCycles_of_idle {command : Pacer.Command}
    (idle : command = .skip ∨ command = .runFrame ∧ ∀ pacer ∈ session.pacer, pacer.paused = true) :
    Console.executedCycles session.setup session.console (session.actions (.pace command)) = 0 := by
  cases hpacer : session.pacer with
  | none =>
      simp only [actions, hpacer]
      rfl
  | some pacer =>
      rcases idle with rfl | ⟨rfl, hpaused⟩
      · simp only [actions, hpacer]
        rfl
      · simp only [actions, hpacer, Paced.actions, Paced.perform, hpaused pacer hpacer]
        rfl

/-- **The law of the timers.**  From any state that a host can bring about, let the host go on in
any way without a reset.

* If a timer is not set, it shows what it did less the executed cycles, and otherwise what it was
  last set to less the executed cycles from that one on.  It never shows less than zero.
* A cycle is executed just if it carries out an instruction or answers a wait.  The one that reads
  the delay timer reads it as it is before it is counted down.
* Neither a skip nor a frame in a pause executes a cycle. -/
theorem timer_law_of_run (reach : Console.Reachable session.setup session.console)
    {operations : List Operation} (orderly : ∀ operation ∈ operations, operation.IsOrderly)
    (hreset : .reset ∉ operations) :
    let setup := session.setup
    let start := session.console
    let actions := allActions operations session
    let now := (performAll operations session).2.console
    (∀ timer : Timer,
      (∀ x, timer.setting x ∉ Console.executions setup start actions) ∧
          now.machine.timer timer =
            max (start.machine.timer timer - Console.executedCycles setup start actions) 0 ∨
        ∃ first last x, actions = first ++ .cycle :: last ∧
          let here := start.acts setup first
          here.executed? setup .cycle = some (timer.setting x) ∧
            (∀ y, timer.setting y ∉ Console.executions setup (here.act setup .cycle) last) ∧
            now.machine.timer timer =
              max ((here.machine.register x).toNat -
                Console.executedCycles setup here (.cycle :: last) : Int) 0) ∧
      (∀ first last, actions = first ++ .cycle :: last →
        let here := start.acts setup first
        (here.executes setup .cycle = true ↔
          (here.executed? setup .cycle).isSome = true ∨
            here.machine.isWaiting = true ∧ here.keypad.typed.isSome = true) ∧
          ∀ x, here.executed? setup .cycle = some (.readDelay x) →
            ((here.act setup .cycle).machine.register x).toNat = here.machine.delay) ∧
      ∀ first command last, operations = first ++ .pace command :: last →
        let here := (performAll first session).2
        (command = .skip ∨ command = .runFrame ∧ ∀ pacer ∈ here.pacer, pacer.paused = true) →
          Console.executedCycles setup here.console (here.actions (.pace command)) = 0 := by
  intro setup start actions now
  have wf : start.WellFormed := reach.wellFormed
  have hnow : now = start.acts setup actions := performAll_console orderly session
  refine ⟨?_, ?_, ?_⟩
  · intro timer
    rw [hnow]
    exact Console.timer_law wf (reset_notMem_allActions orderly hreset) timer
  · intro first last _ here
    have hhere : here.WellFormed := wf.acts first
    exact ⟨Console.executes_cycle_iff hhere, fun x => Console.register_of_readDelay hhere⟩
  · intro first command last _ here idle
    have hsetup : here.setup = setup := performAll_setup first session
    rw [← hsetup]
    exact executedCycles_of_idle idle

/-- A program that sets the delay timer to five, reads it, waits for a key and returns from nowhere.
Four executed cycles leave it at one: the frame in a pause, the idle cycle, the refused one and the
skip do not count. -/
theorem timer_law_of_run_wait :
    let session : Session := { pacer := some {} }
    let before : List Operation :=
      [.load [0x60, 0x05, 0xF0, 0x15, 0xF1, 0x07, 0xF0, 0x0A, 0x00, 0xEE], .step, .step,
        .pace .pause]
    let after : List Operation := [.step, .step, .step, .press 7, .step, .step, .pace .skip]
    let operations := before ++ .pace .runFrame :: after
    (performAll operations session).2.console.machine.timer .delay = 1 ∧
      (∃ first last x, allActions operations session = first ++ .cycle :: last ∧
        let here := session.console.acts {} first
        here.executed? {} .cycle = some (.setDelay x) ∧
          max ((here.machine.register x).toNat -
            Console.executedCycles {} here (.cycle :: last) : Int) 0 = 1) ∧
      Console.executedCycles {} (performAll before session).2.console
        ((performAll before session).2.actions (.pace .runFrame)) = 0 := by
  intro session before after operations
  obtain ⟨hdelay, hset, hpaused⟩ :
      (performAll operations session).2.console.machine.timer .delay = 1 ∧
        .setDelay 0 ∈ Console.executions {} session.console (allActions operations session) ∧
        ∀ pacer ∈ (performAll before session).2.pacer, pacer.paused = true := by
    decide +kernel
  have reach : Console.Reachable {} session.console := Console.reachable_iff.mpr ⟨[], rfl⟩
  have orderly : ∀ operation ∈ operations, operation.IsOrderly := by
    simp [operations, before, after, Operation.IsOrderly]
  have hreset : .reset ∉ operations := by simp [operations, before, after]
  obtain ⟨htimers, -, hidle⟩ := @timer_law_of_run session reach operations orderly hreset
  refine ⟨hdelay, ?_, hidle before .runFrame after rfl (Or.inr ⟨rfl, hpaused⟩)⟩
  rcases htimers .delay with ⟨hunset, -⟩ | ⟨first, last, x, hsplit, hexecuted, -, hvalue⟩
  · exact absurd hset (hunset 0)
  · exact ⟨first, last, x, hsplit, hexecuted, hvalue.symm.trans hdelay⟩

end Session

end ChipEight
