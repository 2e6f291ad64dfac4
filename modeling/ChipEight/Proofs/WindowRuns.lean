import ChipEight.Proofs.Pacing
import ChipEight.Window.Basic

/-!
# Runs of a window

A window hands on most of what happens to it: a command to its pacer, a key to its keypad.  Here
every event is taken apart into the actions that it consists of, so that what holds of all actions
holds of all windows.

* `Window.Event.command?`, `Window.Event.keyAction?` — what an event asks of the pacer and of the
  keypad.
* `Window.handle_of_command`, `Window.Spares` — an event is a command, or it spares the machine.
* `Window.actions`, **`Window.handle_console`** — an event does what the actions do that it consists
  of.
* `Window.played`, `Window.after`, `Window.play_eq` — the events of a run that are played, and the
  window after them.
* `Console.attempted`, `Window.cycles` — the consoles on which cycles are attempted, and
  **`Window.handle_run`**, which tells a frame and a single step from them.
* `Window.IsNew` — a window that has just opened.
-/

namespace ChipEight

/-! ## The cycles among actions -/

namespace Console

variable {setup : Setup}

/-- **The consoles on which actions attempt a cycle,** in order. -/
def attempted (setup : Setup) : Console → List Action → List Console
  | _, [] => []
  | console, action :: rest =>
    (if action = .cycle then [console] else []) ++ attempted setup (console.act setup action) rest

@[simp] lemma attempted_append (console : Console) (first last : List Action) :
    console.attempted setup (first ++ last) =
      console.attempted setup first ++ (console.acts setup first).attempted setup last := by
  induction first generalizing console with
  | nil => rfl
  | cons action rest ih =>
      simp only [List.cons_append, attempted, ih, acts_cons, List.append_assoc]

/-- Cycles one after another go as they go from the consoles on which they are attempted. -/
lemma map_step_attempted (count : Nat) (console : Console) :
    (console.attempted setup (.replicate count .cycle)).map (step setup) =
      console.outcomes setup count := by
  induction count generalizing console with
  | zero => rfl
  | succ count ih =>
      simp only [List.replicate_succ, attempted, if_true, List.singleton_append, List.map_cons,
        outcomes, ih, act]

/-- What happens to the keypad attempts no cycle. -/
lemma attempted_eq_nil {console : Console} {actions : List Action}
    (h : Action.cycle ∉ actions) : console.attempted setup actions = [] := by
  induction actions generalizing console with
  | nil => rfl
  | cons action rest ih =>
      rw [List.mem_cons, not_or] at h
      rw [attempted, if_neg (Ne.symm h.1), ih h.2, List.nil_append]

/-- Cycles are attempted on well-formed consoles. -/
lemma wellFormed_of_mem_attempted {console here : Console} {actions : List Action}
    (wf : console.WellFormed) (h : here ∈ console.attempted setup actions) : here.WellFormed := by
  induction actions generalizing console with
  | nil => cases h
  | cons action rest ih =>
      rcases List.mem_append.mp h with hfirst | hrest
      · split at hfirst
        · rwa [List.mem_singleton.mp hfirst]
        · cases hfirst
      · exact ih (wf.act action) hrest

end Console

/-- The attempts of a batch are cycles, and presenting the picture is no action. -/
lemma Paced.filterMap_action?_events (outcomes : List Outcome) (picture : Screen) :
    (outcomes.map Outcome.event ++ [Pacer.Event.presented picture]).filterMap
        Pacer.Event.action? =
      .replicate outcomes.length .cycle := by
  induction outcomes with
  | nil => rfl
  | cons outcome rest ih =>
      rw [List.map_cons, List.cons_append, List.length_cons, List.replicate_succ, ← ih]
      cases outcome <;> rfl

namespace Window

variable {window : Window} {event : Event} {command : Pacer.Command}

/-! ## What an event asks for -/

/-- The keys that are commands, whatever the key map says. -/
def controls : List String := ["ESCAPE", "F1", "SPACE", "F2", "F3"]

/-- The command that an event is to the pacer. -/
def Event.command? : Event → Option Pacer.Command
  | .press key =>
    if key = "SPACE" then some .togglePause
    else if key = "F2" then some .stepOnce
    else if key = "F3" then some .skip
    else none
  | .tick => some .runFrame
  | .release _ | .wait _ | .draw => none

/-- What an event does to the keypad under a key map. -/
def Event.keyAction? (keys : Table String (Fin 16)) : Event → Option Action
  | .press key => if key ∈ controls then none else (keys.find? key).map .press
  | .release key => (keys.find? key).map .release
  | .tick | .wait _ | .draw => none

/-- **The actions that an event consists of.** -/
def actions (window : Window) (event : Event) : List Action :=
  match event.command? with
  | some command => Paced.actions window.setup command window.paced
  | none => (event.keyAction? window.keys).toList

/-! ## Events that are commands -/

/-- A window receives an event of its pacer by a change to what it shows and to how it ends. -/
lemma foldl_receive (events : List Pacer.Event) (window : Window) :
    ∃ closings exitStatus shown,
      events.foldl receive window = { window with closings, exitStatus, shown } := by
  induction events generalizing window with
  | nil => exact ⟨_, _, _, rfl⟩
  | cons event rest ih =>
      obtain ⟨closings, exitStatus, shown, hrest⟩ := ih (window.receive event)
      refine ⟨closings, exitStatus, shown, ?_⟩
      rw [List.foldl_cons, hrest]
      cases event with
      | faulted fault report =>
          simp only [receive]
          split <;> rfl
      | ran | stuck | presented => rfl

/-- Whatever a window receives, its pacer is left as it is. -/
lemma foldl_receive_paced (events : List Pacer.Event) (window : Window) :
    (events.foldl receive window).paced = window.paced := by
  obtain ⟨_, _, _, h⟩ := foldl_receive events window
  rw [h]

/-- **A command goes to the pacer.** -/
theorem handle_of_command (h : event.command? = some command) (window : Window) :
    window.handle event = window.pace command := by
  cases event with
  | press key =>
      simp only [Event.command?] at h
      split at h
      · subst key
        cases h
        rfl
      · split at h
        · subst key
          cases h
          rfl
        · split at h
          · subst key
            cases h
            rfl
          · cases h
  | tick =>
      cases h
      rfl
  | release | wait | draw => cases h

/-- The pacer of a window does as it does by itself. -/
lemma pace_paced (command : Pacer.Command) (window : Window) :
    (window.pace command).1.paced = (Paced.perform window.setup command window.paced).1 := by
  rw [pace, foldl_receive_paced]

/-! ## Events that are none -/

/-- **What an event spares that is no command:** the machine, the picture, the exit status and the
record of a fault.  It can do something to the keypad, and one such event closes the window. -/
structure Spares (window : Window) (event : Event) (after : Window) : Prop where
  setup_eq : after.setup = window.setup
  keys_eq : after.keys = window.keys
  debug_eq : after.debug = window.debug
  console_eq : after.paced.console =
    window.paced.console.acts window.setup (event.keyAction? window.keys).toList
  fault_eq : after.paced.pacer.fault = window.paced.pacer.fault
  shown_eq : after.shown = window.shown
  exitStatus_eq : after.exitStatus = window.exitStatus
  closings_eq : after.closings = window.closings + if event = .press "ESCAPE" then 1 else 0

/-- Taking the rates changes nothing that a run depends on. -/
lemma spares_takeRates (quarters : Int) (window : Window) :
    Spares window (.wait quarters) window.takeRates := by
  unfold takeRates
  split
  · exact ⟨rfl, rfl, rfl, rfl, rfl, rfl, rfl, rfl⟩
  · split <;> exact ⟨rfl, rfl, rfl, rfl, rfl, rfl, rfl, rfl⟩

/-- **An event that is no command spares what it should.** -/
theorem handle_spares (h : event.command? = none) (window : Window) :
    Spares window event (window.handle event).1 := by
  cases event with
  | press key =>
      obtain ⟨hspace, hstep, hskip⟩ : key ≠ "SPACE" ∧ key ≠ "F2" ∧ key ≠ "F3" := by
        simp only [Event.command?] at h
        grind
      by_cases hescape : key = "ESCAPE"
      · subst hescape
        exact ⟨rfl, rfl, rfl, rfl, rfl, rfl, rfl, rfl⟩
      have hclosings : window.closings =
          window.closings + if Event.press key = .press "ESCAPE" then 1 else 0 := by
        rw [if_neg fun heq => hescape (Event.press.inj heq)]
        rfl
      by_cases hjournal : key = "F1"
      · subst hjournal
        exact ⟨rfl, rfl, rfl, rfl, rfl, rfl, rfl, hclosings⟩
      have hcontrols : key ∉ controls := by simp [controls, *]
      simp only [handle, press, hescape, hjournal, hspace, hstep, hskip, if_false]
      split
      all_goals
        rename_i hdigit
        refine ⟨rfl, rfl, rfl, ?_, rfl, rfl, rfl, hclosings⟩
        simp only [Event.keyAction?, hcontrols, hdigit, if_false]
        rfl
  | tick => cases h
  | release key =>
      simp only [handle, release]
      split
      all_goals
        rename_i hdigit
        refine ⟨rfl, rfl, rfl, ?_, rfl, rfl, rfl, rfl⟩
        simp only [Event.keyAction?, hdigit]
        rfl
  | wait quarters => exact { spares_takeRates quarters _ with }
  | draw => exact ⟨rfl, rfl, rfl, rfl, rfl, rfl, rfl, rfl⟩

/-- A key that is no command does nothing to the machine. -/
lemma machine_of_no_command (h : event.command? = none) (window : Window) :
    (window.handle event).1.paced.console.machine = window.paced.console.machine := by
  rw [(handle_spares h window).console_eq]
  cases event with
  | press key =>
      simp only [Event.keyAction?]
      split
      · rfl
      · cases window.keys.find? key <;> rfl
  | release key =>
      simp only [Event.keyAction?]
      cases window.keys.find? key <;> rfl
  | tick | wait | draw => rfl

/-! ## All events -/

/-- No event changes what a window was built with. -/
lemma handle_fixed (event : Event) (window : Window) :
    (window.handle event).1.setup = window.setup ∧
      (window.handle event).1.keys = window.keys ∧
      (window.handle event).1.debug = window.debug := by
  cases h : event.command? with
  | none =>
      have spares := handle_spares h window
      exact ⟨spares.setup_eq, spares.keys_eq, spares.debug_eq⟩
  | some command =>
      obtain ⟨_, _, _, hreceive⟩ :=
        foldl_receive (Paced.perform window.setup command window.paced).2
          { window with paced := (Paced.perform window.setup command window.paced).1 }
      rw [handle_of_command h, pace, hreceive]
      exact ⟨rfl, rfl, rfl⟩

/-- **An event does to the console what the actions do that it consists of.** -/
theorem handle_console (event : Event) (window : Window) :
    (window.handle event).1.paced.console =
      window.paced.console.acts window.setup (window.actions event) := by
  cases h : event.command? with
  | none => simp only [actions, h, (handle_spares h window).console_eq]
  | some command =>
      simp only [actions, h, handle_of_command h, pace_paced]
      exact Paced.perform_console command window.paced

/-! ## Runs -/

/-- **The window after events,** all of which are handled. -/
def after (window : Window) (events : List Event) : Window :=
  events.foldl (fun window event => (window.handle event).1) window

@[simp] lemma after_nil (window : Window) : window.after [] = window := rfl

@[simp] lemma after_cons (window : Window) (event : Event) (events : List Event) :
    window.after (event :: events) = (window.handle event).1.after events := rfl

@[simp] lemma after_append (window : Window) (first last : List Event) :
    window.after (first ++ last) = (window.after first).after last :=
  List.foldl_append

/-- **The events that are played:** none behind one that closes the window. -/
def played : List Event → Window → List Event
  | [], _ => []
  | event :: rest, window =>
    if window.isClosed then [] else event :: played rest (window.handle event).1

/-- Playing events is handling those that are played. -/
theorem play_eq (events : List Event) (window : Window) :
    (play events window).1 = window.after (played events window) := by
  induction events generalizing window with
  | nil => rfl
  | cons event rest ih =>
      rw [play, played]
      split
      · rfl
      · exact ih _

/-- An event is played if the window is open. -/
lemma played_cons (isOpen : window.isClosed = false) (event : Event) (events : List Event) :
    played (event :: events) window = event :: played events (window.handle event).1 := by
  simp only [played, isOpen, Bool.false_eq_true, if_false]

/-- Nothing is played once the window is closed. -/
lemma played_of_isClosed (closed : window.isClosed = true) (events : List Event) :
    played events window = [] := by
  cases events with
  | nil => rfl
  | cons event rest => simp only [played, closed, if_true]

/-- The actions that events consist of, one after another. -/
def allActions : List Event → Window → List Action
  | [], _ => []
  | event :: rest, window => window.actions event ++ allActions rest (window.handle event).1

/-- No events change what a window was built with. -/
lemma after_fixed (events : List Event) (window : Window) :
    (window.after events).setup = window.setup ∧ (window.after events).keys = window.keys ∧
      (window.after events).debug = window.debug := by
  induction events generalizing window with
  | nil => exact ⟨rfl, rfl, rfl⟩
  | cons event rest ih =>
      obtain ⟨hsetup, hkeys, hdebug⟩ := handle_fixed event window
      rw [after_cons, ← hsetup, ← hkeys, ← hdebug]
      exact ih _

/-- **Events do to the console what the actions do that they consist of.** -/
theorem after_console (events : List Event) (window : Window) :
    (window.after events).paced.console =
      window.paced.console.acts window.setup (allActions events window) := by
  induction events generalizing window with
  | nil => rfl
  | cons event rest ih =>
      rw [after_cons, ih, allActions, Console.acts_append, handle_console,
        (handle_fixed event window).1]

lemma allActions_append (first last : List Event) (window : Window) :
    allActions (first ++ last) window =
      allActions first window ++ allActions last (window.after first) := by
  induction first generalizing window with
  | nil => rfl
  | cons event rest ih =>
      simp only [List.cons_append, allActions, ih, after_cons, List.append_assoc]

/-- **The consoles on which a window attempts a cycle** when events happen to it, in order. -/
def cycles (window : Window) (events : List Event) : List Console :=
  window.paced.console.attempted window.setup (allActions events window)

lemma cycles_append (first last : List Event) (window : Window) :
    window.cycles (first ++ last) = window.cycles first ++ (window.after first).cycles last := by
  rw [cycles, allActions_append, Console.attempted_append, ← after_console, cycles, cycles,
    (after_fixed first window).1]

/-- An event that is no command attempts no cycle. -/
lemma cycles_of_no_command (h : event.command? = none) (window : Window) :
    window.cycles [event] = [] := by
  refine Console.attempted_eq_nil ?_
  simp only [allActions, actions, h, List.append_nil, Option.mem_toList]
  cases event with
  | press key =>
      simp only [Event.keyAction?]
      split
      · simp
      · simp
  | release key => simp [Event.keyAction?]
  | tick | wait | draw => simp [Event.keyAction?]

/-- A command attempts the cycles that the pacer attempts on it. -/
lemma cycles_of_command (h : event.command? = some command) (window : Window) :
    window.cycles [event] = window.paced.console.attempted window.setup
      (Paced.actions window.setup command window.paced) := by
  simp only [cycles, allActions, actions, h, List.append_nil]

/-- A command that runs nothing attempts no cycle. -/
lemma cycles_of_idle_command (h : event.command? = some command)
    (idle : ¬ (command = .runFrame ∨ command = .stepOnce)) (window : Window) :
    window.cycles [event] = [] := by
  rw [cycles_of_command h]
  refine Console.attempted_eq_nil ?_
  cases command
  case runFrame | stepOnce => simp at idle
  case togglePause =>
    simp only [Paced.actions, Paced.perform, reduceCtorEq, if_false]
    split <;> simp
  all_goals simp [Paced.actions, Paced.perform]

/-- **A frame and a single step, told from how the attempted cycles went.** -/
theorem handle_run (wf : window.paced.console.WellFormed) (h : event.command? = some command)
    (runs : command = .runFrame ∨ command = .stepOnce) :
    let outcomes := (window.cycles [event]).map (Console.step window.setup)
    let console := window.paced.console.acts window.setup (.replicate outcomes.length .cycle)
    window.paced.console.Attempts window.setup (window.paced.pacer.allowance command) outcomes ∧
      (window.handle event).1 =
        { (outcomes.map Outcome.event).foldl receive
            { window with paced :=
              { console, pacer := outcomes.foldl Pacer.settle window.paced.pacer } } with
          shown := some console.machine.screen } := by
  obtain ⟨outcomes, attempts, hperform⟩ := Paced.perform_run window.setup window.paced wf runs
  have hskip : command ≠ .skip := by rcases runs with rfl | rfl <;> simp
  have hactions : Paced.actions window.setup command window.paced =
      .replicate outcomes.length .cycle := by
    rw [Paced.actions, if_neg hskip, hperform, Paced.filterMap_action?_events]
  have hcycles : (window.cycles [event]).map (Console.step window.setup) = outcomes := by
    rw [cycles_of_command h, hactions, Console.map_step_attempted, ← attempts.successive]
  simp only [hcycles, handle_of_command h, pace, hperform, List.foldl_append]
  exact ⟨attempts, rfl⟩

/-! ## New windows -/

/-- **A window that has just opened:** its machine has just been switched on and given a program. -/
def IsNew (window : Window) : Prop :=
  ∃ options setup journal program machine,
    Machine.powerOn.load program = some machine ∧
      window = opened options setup machine journal

/-- The console of a new window is well-formed. -/
lemma IsNew.wellFormed (new : window.IsNew) : window.paced.console.WellFormed := by
  obtain ⟨options, setup, journal, program, machine, hload, rfl⟩ := new
  have hact : ({} : Console).act setup (.load program) = { machine } := by
    simp only [Console.act, hload, Option.getD_some]
  have wf : (({} : Console).act setup (.load program)).WellFormed :=
    Console.wellFormed_powerOn.act (.load program)
  rwa [hact] at wf

/-- Events keep the console of a window well-formed. -/
lemma wellFormed_after (wf : window.paced.console.WellFormed) (events : List Event) :
    (window.after events).paced.console.WellFormed := by
  rw [after_console]
  exact wf.acts _

end Window

end ChipEight
