import ChipEight.Session
import Mathlib.Tactic.Common

/-!
# Runs as actions

A host drives a console by operations, and one operation may run many cycles.  Here every operation
is taken apart into the smallest things that can happen to a console, so that what holds of each of
them holds of every run, at every moment of it.

* `Action` — a cycle, a skip, a program, a reset, or something that happens to the keypad; the first
  and the last of these are `Action.IsPlay`.
* `Console.act`, `Console.acts` — what actions do, one and one after another.
* `Session.actions`, `Session.allActions` — the actions that operations consist of.
* `Session.Operation.IsOrderly` — an operation that leaves the numbers of the state to the machine.
* **`Session.performAll_console`** — a run of orderly operations is the run of its actions.
* `Console.Reachable` — a console that orderly operations bring about from power-on, and
  `Console.reachable_iff`, which says the same of actions.
-/

namespace ChipEight

/-! ## Actions -/

/-- The smallest things that can happen to a console. -/
inductive Action where
  /-- One cycle is attempted. -/
  | cycle
  /-- The instruction at the program counter is passed over, and a wait ends. -/
  | skip
  /-- A program is put into memory, unless it is too large. -/
  | load (program : List UInt8)
  /-- The machine is switched off and on. -/
  | reset
  | press (key : Fin 16)
  | release (key : Fin 16)
  | clearKeys
  /-- The typed digit is taken by somebody else than the machine. -/
  | takeTyped
  deriving DecidableEq

/-- **A cycle, or something that happens to the keypad.** -/
def Action.IsPlay : Action → Prop
  | .skip | .load _ | .reset => False
  | _ => True

namespace Console

/-- **What an action does.** -/
def act (setup : Setup) (console : Console) : Action → Console
  | .cycle => (console.step setup).left
  | .skip =>
    { console with machine := { console.machine.advance with activity := .running } }
  | .load program =>
    { console with machine := (console.machine.load program).getD console.machine }
  | .reset => { console with machine := Machine.powerOn }
  | .press key => { console with keypad := console.keypad.press key }
  | .release key => { console with keypad := console.keypad.release key }
  | .clearKeys => { console with keypad := console.keypad.clear }
  | .takeTyped => { console with keypad := console.keypad.takeTyped.2 }

/-- Actions one after another. -/
def acts (setup : Setup) (console : Console) (actions : List Action) : Console :=
  actions.foldl (act setup) console

variable {setup : Setup}

@[simp] lemma acts_nil (console : Console) : console.acts setup [] = console := rfl

@[simp] lemma acts_cons (console : Console) (action : Action) (actions : List Action) :
    console.acts setup (action :: actions) = (console.act setup action).acts setup actions := rfl

@[simp] lemma acts_append (console : Console) (first last : List Action) :
    console.acts setup (first ++ last) = (console.acts setup first).acts setup last :=
  List.foldl_append

/-- **What every action keeps holds after any actions.** -/
lemma acts_induction {motive : Console → Prop} {actions : List Action}
    (keep : ∀ action ∈ actions, ∀ console, motive console → motive (console.act setup action)) :
    ∀ {console : Console}, motive console → motive (console.acts setup actions) := by
  induction actions with
  | nil => exact fun h => h
  | cons action rest ih =>
      intro console h
      exact ih (fun other hmem => keep other (List.mem_cons_of_mem _ hmem))
        (keep action List.mem_cons_self console h)

end Console

/-! ## What a pacer does, as actions -/

/-- The action that an event tells of: an attempted cycle, or nothing that changes the console. -/
def Pacer.Event.action? : Pacer.Event → Option Action
  | .ran _ _ => some .cycle
  | .faulted _ _ => some .cycle
  | .stuck _ => some .cycle
  | .presented _ => none

namespace Paced

variable {setup : Setup}

/-- The actions that a pacer takes when told something. -/
def actions (setup : Setup) (command : Pacer.Command) (paced : Paced) : List Action :=
  if command = .skip then [.skip]
  else (perform setup command paced).2.filterMap Pacer.Event.action?

/-- A batch is the cycles that it attempts. -/
lemma batch_console (budget : Nat) (paced : Paced) :
    (batch setup budget paced).1.console =
      paced.console.acts setup ((batch setup budget paced).2.filterMap Pacer.Event.action?) := by
  induction budget generalizing paced with
  | zero => rfl
  | succ budget ih =>
      rw [batch]
      split
      -- the last case is the only one in which the batch goes on
      case h_5 hstep =>
        simpa [Pacer.Event.action?, Console.act, Outcome.left, hstep] using ih _
      all_goals
        rename_i hstep
        simp [Pacer.Event.action?, Console.act, Outcome.left, hstep]

/-- Presenting a picture changes nothing about the console. -/
lemma present_console (done : Paced × List Pacer.Event) :
    (present done).1.console = done.1.console ∧
      (present done).2.filterMap Pacer.Event.action? =
        done.2.filterMap Pacer.Event.action? := by
  unfold present
  split
  · exact ⟨rfl, rfl⟩
  · simp [Pacer.Event.action?]

/-- **What a pacer does is the actions that it takes.** -/
theorem perform_console (command : Pacer.Command) (paced : Paced) :
    (perform setup command paced).1.console =
      paced.console.acts setup (paced.actions setup command) := by
  cases command
  case runFrame =>
    simp only [actions, perform, present_console, reduceCtorEq, if_false]
    split
    · rfl
    · exact batch_console _ _
  case stepOnce =>
    simp only [actions, perform, present_console, reduceCtorEq, if_false]
    exact batch_console _ _
  case togglePause =>
    simp only [actions, perform, reduceCtorEq, if_false]
    split <;> rfl
  all_goals rfl

end Paced

/-! ## What a host does, as actions -/

namespace Session

/-- **An operation that leaves the numbers of the state to the machine:** it writes nothing
directly, and it names the keys that it presses by their digits. -/
def Operation.IsOrderly : Operation → Prop
  | .write _ => False
  | .press key => 0 ≤ key ∧ key < 16
  | _ => True

/-- The actions that an operation consists of. -/
def actions (session : Session) : Operation → List Action
  | .step => [.cycle]
  | .run count =>
    let run := cycles session.setup session.journal count session.console
    List.replicate (run.flows.length + if run.refusal.isSome then 1 else 0) .cycle
  | .load program => [.load program]
  | .reset => [.reset]
  | .press key => ((Numbering.place? 16 key).map Action.press).toList
  | .release key => ((Numbering.place? 16 key).map Action.release).toList
  | .clearKeys => [.clearKeys]
  | .typed => [.takeTyped]
  | .pace command =>
    match session.pacer with
    | none => []
    | some pacer => Paced.actions session.setup command { console := session.console, pacer }
  | _ => []

/-- The actions that operations consist of, one after another. -/
def allActions : List Operation → Session → List Action
  | [], _ => []
  | operation :: rest, session =>
    session.actions operation ++ allActions rest (session.perform operation).session

variable {setup : Setup}

/-- Cycles in a row are the cycles that they attempt. -/
lemma cycles_console (journal : Journal) (count : Nat) (console : Console) :
    let run := cycles setup journal count console
    run.console = console.acts setup
      (List.replicate (run.flows.length + if run.refusal.isSome then 1 else 0) .cycle) := by
  induction count generalizing console with
  | zero => rfl
  | succ count ih =>
      cases hstep : console.step setup with
      | ran flow trace next =>
          simp only [cycles, hstep, List.length_cons, Nat.add_right_comm _ 1,
            List.replicate_succ, Console.acts_cons, Console.act, Outcome.left]
          exact ih next
      | faulted fault next => simp [cycles, hstep, Console.act, Outcome.left]
      | stuck misfit next => simp [cycles, hstep, Console.act, Outcome.left]

/-- No operation changes what the machine was built with. -/
@[simp] lemma perform_setup (operation : Operation) (session : Session) :
    (session.perform operation).session.setup = session.setup := by
  cases operation
  case step =>
    simp only [perform, step]
    split <;> rfl
  case load program =>
    simp only [perform]
    split <;> rfl
  case fetch =>
    simp only [perform]
    split
    · rfl
    · split <;> rfl
  case report | panel | instruction =>
    simp only [perform, lookAtWord]
    split <;> rfl
  case press | release | isDown =>
    simp only [perform, onKey]
    split <;> rfl
  case pace command =>
    simp only [perform, pace]
    split <;> rfl
  case reset => simp only [perform, withMachine]
  all_goals rfl

/-- Only what is told to the pacer changes the pacer. -/
lemma perform_pacer {operation : Operation} (hpace : ∀ command, operation ≠ .pace command)
    (session : Session) : (session.perform operation).session.pacer = session.pacer := by
  cases operation
  case pace command => exact absurd rfl (hpace command)
  case step =>
    simp only [perform, step]
    split <;> rfl
  case load program =>
    simp only [perform]
    split <;> rfl
  case fetch =>
    simp only [perform]
    split
    · rfl
    · split <;> rfl
  case report | panel | instruction =>
    simp only [perform, lookAtWord]
    split <;> rfl
  case press | release | isDown =>
    simp only [perform, onKey]
    split <;> rfl
  case reset => simp only [perform, withMachine]
  all_goals rfl

/-- No operation takes the pacer away. -/
lemma isSome_pacer_perform (operation : Operation) {session : Session}
    (hpacer : session.pacer.isSome) : (session.perform operation).session.pacer.isSome := by
  by_cases hpace : ∃ command, operation = .pace command
  · obtain ⟨command, rfl⟩ := hpace
    simp only [perform, pace]
    split
    · exact hpacer
    · rfl
  · rw [perform_pacer (not_exists.mp hpace)]
    exact hpacer

/-- **What an orderly operation does is the actions that it consists of.** -/
theorem perform_console {operation : Operation} (orderly : operation.IsOrderly)
    (session : Session) :
    (session.perform operation).session.console =
      session.console.acts session.setup (session.actions operation) := by
  cases operation
  case write pieces => exact orderly.elim
  case step =>
    simp only [perform, step, actions, Console.acts_cons, Console.acts_nil, Console.act]
    split
    all_goals
      rename_i hstep
      rw [hstep]
      rfl
  case run count => exact cycles_console session.journal count session.console
  case load program =>
    simp only [perform, actions, Console.acts_cons, Console.acts_nil, Console.act]
    split
    all_goals
      rename_i hload
      rw [hload]
      rfl
  case press number =>
    obtain ⟨hnonneg, hlt⟩ := orderly
    obtain ⟨key, rfl⟩ : ∃ key : Fin 16, number = key.val :=
      ⟨⟨number.toNat, by omega⟩, by simp only; omega⟩
    simp only [perform, onKey, actions, Numbering.place?_natCast key.isLt]
    rfl
  case release number =>
    simp only [perform, onKey, actions]
    split
    all_goals
      rename_i hplace
      rw [hplace]
      rfl
  case fetch =>
    simp only [perform]
    split
    · rfl
    · split <;> rfl
  case report | panel | instruction =>
    simp only [perform, lookAtWord]
    split <;> rfl
  case isDown =>
    simp only [perform, onKey]
    split <;> rfl
  case pace command =>
    cases hpacer : session.pacer with
    | none =>
        simp only [perform, pace, actions, hpacer]
        rfl
    | some pacer =>
        simp only [perform, pace, actions, hpacer]
        exact Paced.perform_console command _
  all_goals rfl

/-- **A run of orderly operations is the run of the actions that they consist of.** -/
theorem performAll_console {operations : List Operation}
    (orderly : ∀ operation ∈ operations, operation.IsOrderly) (session : Session) :
    (performAll operations session).2.console =
      session.console.acts session.setup (allActions operations session) := by
  induction operations generalizing session with
  | nil => rfl
  | cons operation rest ih =>
      have hfirst := perform_console (orderly operation List.mem_cons_self) session
      rw [performAll, ih fun other hmem => orderly other (List.mem_cons_of_mem _ hmem),
        allActions, Console.acts_append, perform_setup, hfirst]

/-- No operations change what the machine was built with. -/
@[simp] lemma performAll_setup (operations : List Operation) (session : Session) :
    (performAll operations session).2.setup = session.setup := by
  induction operations generalizing session with
  | nil => rfl
  | cons operation rest ih => rw [performAll, ih, perform_setup]

/-- No operations take the pacer away. -/
lemma isSome_pacer_performAll (operations : List Operation) {session : Session}
    (hpacer : session.pacer.isSome) : (performAll operations session).2.pacer.isSome := by
  induction operations generalizing session with
  | nil => exact hpacer
  | cons operation rest ih => exact ih (isSome_pacer_perform operation hpacer)

end Session

/-! ## Reachable consoles -/

/-- **A console that a host can bring about** from power-on by orderly operations, with or without a
pacer, whoever listens and whatever is traced. -/
def Console.Reachable (setup : Setup) (console : Console) : Prop :=
  ∃ (journal : Journal) (pacer : Option Pacer) (audience : Audience)
    (operations : List Session.Operation),
    (∀ operation ∈ operations, operation.IsOrderly) ∧
      (Session.performAll operations { setup, journal, pacer, audience }).2.console = console

/-- A machine that some host can bring about from power-on. -/
def Machine.Reachable (machine : Machine) : Prop :=
  ∃ setup console, Console.Reachable setup console ∧ console.machine = machine

/-- The operation that consists of an action alone, given a pacer. -/
def Action.operation : Action → Session.Operation
  | .cycle => .step
  | .skip => .pace .skip
  | .load program => .load program
  | .reset => .reset
  | .press key => .press key.val
  | .release key => .release key.val
  | .clearKeys => .clearKeys
  | .takeTyped => .typed

namespace Session

lemma isOrderly_operation (action : Action) : action.operation.IsOrderly := by
  cases action
  case press key => exact ⟨by omega, by omega⟩
  all_goals exact trivial

/-- With a pacer, the operation of an action consists of that action. -/
lemma perform_operation (action : Action) {session : Session} (hpacer : session.pacer.isSome) :
    (session.perform action.operation).session.console =
      session.console.act session.setup action := by
  obtain ⟨pacer, hsome⟩ := Option.isSome_iff_exists.mp hpacer
  rw [perform_console (isOrderly_operation action)]
  cases action
  case press key | release key =>
    simp only [Action.operation, actions, Numbering.place?_natCast key.isLt]
    rfl
  case skip =>
    simp only [Action.operation, actions, hsome]
    rfl
  all_goals rfl

/-- With a pacer, the operations of actions do what the actions do. -/
lemma performAll_operations (actions : List Action) {session : Session}
    (hpacer : session.pacer.isSome) :
    (performAll (actions.map Action.operation) session).2.console =
      session.console.acts session.setup actions := by
  induction actions generalizing session with
  | nil => rfl
  | cons action rest ih =>
      rw [List.map_cons, performAll, ih (isSome_pacer_perform _ hpacer), perform_setup,
        perform_operation action hpacer, Console.acts_cons]

end Session

namespace Console

variable {setup : Setup} {console : Console}

/-- **What a host can bring about is what actions can.** -/
theorem reachable_iff :
    Reachable setup console ↔ ∃ actions, console = acts setup {} actions := by
  constructor
  · rintro ⟨journal, pacer, audience, operations, orderly, rfl⟩
    exact ⟨_, Session.performAll_console orderly _⟩
  · rintro ⟨actions, rfl⟩
    refine ⟨{}, some {}, {}, actions.map Action.operation, ?_, ?_⟩
    · intro operation hmem
      obtain ⟨action, -, rfl⟩ := List.mem_map.mp hmem
      exact Session.isOrderly_operation action
    · exact Session.performAll_operations actions rfl

/-- What actions make of a reachable console is reachable. -/
lemma Reachable.acts (reach : Reachable setup console) (actions : List Action) :
    Reachable setup (console.acts setup actions) := by
  obtain ⟨first, rfl⟩ := reachable_iff.mp reach
  exact reachable_iff.mpr ⟨first ++ actions, (acts_append _ _ _).symm⟩

end Console

end ChipEight
