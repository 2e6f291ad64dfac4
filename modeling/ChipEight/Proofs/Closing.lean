import ChipEight.Proofs.WindowRuns

/-!
# How a run of a window ends

A window closes when ESCAPE is pressed, and outside debugging when a cycle is refused.  Refusals
turn up in the middle of frames and of single steps, so first it is told what a batch does to a
window from how its cycles went; then what every event does; and then what is left of a run.

* `Outcome.Smooth`, `Console.Attempts.smooth_or_refused` — of the cycles of a batch none is refused,
  or just the last one.
* `Window.receive_smooth`, `Window.receive_refused` — what the window makes of either.
* `Window.Refuses`, `Window.Turn`, **`Window.turn_handle`** — what an event does to how the window
  ends.
* `Window.Ended`, `Window.ended_of_calm` — the three ways in which a run can have gone.
* **`Window.ending_of_play`** — when a window is closed, how often, and with which exit status.
-/

namespace ChipEight

/-! ## The cycles of a batch -/

namespace Outcome

/-- None of the cycles was refused. -/
def Smooth (outcomes : List Outcome) : Prop :=
  ∀ outcome ∈ outcomes, outcome.fault? = none

/-- A cycle that was refused ends its batch. -/
lemma endsBatch_of_fault? {outcome : Outcome} {fault : Fault} (h : outcome.fault? = some fault) :
    outcome.endsBatch = true := by
  cases outcome with
  | faulted other left => rfl
  | ran flow trace left => cases h
  | stuck misfit left => cases h

/-- Cycles none of which was refused leave the record alone. -/
lemma Smooth.fault_foldl_settle {outcomes : List Outcome} (smooth : Smooth outcomes)
    (pacer : Pacer) : (outcomes.foldl Pacer.settle pacer).fault = pacer.fault := by
  induction outcomes generalizing pacer with
  | nil => rfl
  | cons outcome rest ih =>
      obtain ⟨hfirst, hrest⟩ := List.forall_mem_cons.mp smooth
      rw [List.foldl_cons, ih hrest, Pacer.fault_settle, hfirst, Option.none_or]

end Outcome

namespace Console

variable {setup : Setup} {console : Console}

/-- The fault for which a console refuses its next cycle. -/
def refusal? (setup : Setup) (console : Console) : Option Fault :=
  (console.step setup).fault?

/-- **Of the cycles that a budget allows none is refused, or just the last one.** -/
theorem Attempts.smooth_or_refused {budget : Nat} {outcomes : List Outcome}
    (attempts : Attempts setup console budget outcomes) :
    Outcome.Smooth outcomes ∨
      ∃ first outcome fault, outcomes = first ++ [outcome] ∧ Outcome.Smooth first ∧
        outcome.fault? = some fault := by
  by_cases smooth : Outcome.Smooth outcomes
  · exact Or.inl smooth
  · obtain ⟨outcome, hmem, hrefused⟩ : ∃ outcome ∈ outcomes, outcome.fault? ≠ none := by
      simpa only [Outcome.Smooth, not_forall, exists_prop] using smooth
    obtain ⟨fault, hfault⟩ := Option.ne_none_iff_exists'.mp hrefused
    obtain ⟨first, rfl⟩ :=
      attempts.eq_append_of_mem hmem (Outcome.endsBatch_of_fault? hfault)
    refine Or.inr ⟨first, outcome, fault, rfl, fun other hother => ?_, hfault⟩
    -- nothing is attempted behind a refused cycle, so there is none before the last one
    by_contra hne
    obtain ⟨cause, hcause⟩ := Option.ne_none_iff_exists'.mp hne
    obtain ⟨before, behind, rfl⟩ := List.append_of_mem hother
    have hlast := attempts.last before other (behind ++ [outcome]) (by simp)
      (Outcome.endsBatch_of_fault? hcause)
    simp at hlast

end Console

/-! ## What a window makes of them -/

namespace Window

variable {window : Window} {event : Event} {outcomes : List Outcome}

/-- **Cycles none of which is refused** pass a window by. -/
lemma receive_smooth (smooth : Outcome.Smooth outcomes) (window : Window) :
    (outcomes.map Outcome.event).foldl receive window = window := by
  induction outcomes with
  | nil => rfl
  | cons outcome rest ih =>
      obtain ⟨hfirst, hrest⟩ := List.forall_mem_cons.mp smooth
      have hsame : window.receive outcome.event = window := by
        cases outcome with
        | faulted fault left => cases hfirst
        | ran flow trace left => rfl
        | stuck misfit left => rfl
      rw [List.map_cons, List.foldl_cons, hsame, ih hrest]

/-- **A cycle that is refused** closes a window that is not used for debugging. -/
lemma receive_refused {outcome : Outcome} {fault : Fault} (h : outcome.fault? = some fault)
    (window : Window) :
    let after := window.receive outcome.event
    after.closings = window.closings + (if window.debug then 0 else 1) ∧
      after.exitStatus = (if window.debug then window.exitStatus else 1) ∧
        after.paced = window.paced := by
  cases outcome with
  | faulted other left =>
      simp only [Outcome.event, receive]
      split <;> exact ⟨rfl, rfl, rfl⟩
  | ran flow trace left => cases h
  | stuck misfit left => cases h

/-! ## What an event does -/

/-- **A cycle is refused while events happen to a window:** it is the last one that is attempted,
and the only one that is refused. -/
def Refuses (window : Window) (events : List Event) (fault : Fault) : Prop :=
  ∃ first last, window.cycles events = first ++ [last] ∧
    (∀ console ∈ first, console.refusal? window.setup = none) ∧
      last.refusal? window.setup = some fault

/-- No cycle is refused while events happen to a window. -/
def RunsSmoothly (window : Window) (events : List Event) : Prop :=
  ∀ console ∈ window.cycles events, console.refusal? window.setup = none

/-- **What an event does to how a window ends.** -/
inductive Turn (window : Window) (event : Event) (after : Window) : Prop where
  /-- No cycle is refused.  Only ESCAPE closes the window. -/
  | smooth (smooth : window.RunsSmoothly [event])
      (closings : after.closings = window.closings + if event = .press "ESCAPE" then 1 else 0)
      (exitStatus : after.exitStatus = window.exitStatus)
      (calm : window.paced.pacer.fault = none → after.paced.pacer.fault = none)
  /-- A cycle is refused.  This closes the window unless it is used for debugging. -/
  | refused (fault : Fault) (refuses : window.Refuses [event] fault)
      (command : event ≠ .press "ESCAPE")
      (closings : after.closings = window.closings + if window.debug then 0 else 1)
      (exitStatus : after.exitStatus = if window.debug then window.exitStatus else 1)
      (record : after.paced.pacer.fault = some fault)

/-- **A frame and a single step** close the window just if a cycle is refused and there is no
debugging. -/
lemma turn_run {command : Pacer.Command} (wf : window.paced.console.WellFormed)
    (h : event.command? = some command) (runs : command = .runFrame ∨ command = .stepOnce) :
    Turn window event (window.handle event).1 := by
  obtain ⟨attempts, hdone⟩ := handle_run wf h runs
  have hcommand : event ≠ .press "ESCAPE" := by
    rintro rfl
    cases h
  rcases attempts.smooth_or_refused with smooth | ⟨first, outcome, fault, hsplit, smooth, hfault⟩
  · refine .smooth (fun console hmem => smooth _ (List.mem_map_of_mem hmem)) ?_ ?_ ?_
    all_goals rw [hdone, receive_smooth smooth]
    · rw [if_neg hcommand]
      rfl
    · exact fun calm => (smooth.fault_foldl_settle _).trans calm
  · obtain ⟨before, behind, hcycles, rfl, hbehind⟩ := List.map_eq_append_iff.mp hsplit
    obtain ⟨last, rest, rfl, rfl, hrest⟩ := List.map_eq_cons_iff.mp hbehind
    obtain rfl := List.map_eq_nil_iff.mp hrest
    refine .refused fault ⟨before, last, hcycles, ?_, hfault⟩ hcommand ?_ ?_ ?_
    · exact fun console hmem => smooth _ (List.mem_map_of_mem hmem)
    all_goals
      rw [hdone, hsplit, List.map_append, List.foldl_append, receive_smooth smooth,
        List.map_singleton, List.foldl_cons, List.foldl_nil]
    · exact (receive_refused hfault _).1
    · exact (receive_refused hfault _).2.1
    · refine (congrArg (·.pacer.fault) (receive_refused hfault _).2.2).trans ?_
      rw [List.foldl_append, List.foldl_cons, List.foldl_nil, Pacer.fault_settle, hfault]
      rfl

/-- A command that runs nothing closes no window, and puts no fault on record. -/
lemma turn_idle {command : Pacer.Command} (h : event.command? = some command)
    (idle : ¬ (command = .runFrame ∨ command = .stepOnce)) (window : Window) :
    Turn window event (window.handle event).1 := by
  have hcommand : event ≠ .press "ESCAPE" := by
    rintro rfl
    cases h
  have hkept : (window.pace command).1.closings = window.closings ∧
      (window.pace command).1.exitStatus = window.exitStatus ∧
        (window.paced.pacer.fault = none → (window.pace command).1.paced.pacer.fault = none) := by
    cases command
    case runFrame | stepOnce => simp at idle
    case togglePause =>
      simp only [pace, Paced.perform]
      split
      · exact ⟨rfl, rfl, fun _ => rfl⟩
      · exact ⟨rfl, rfl, id⟩
    case skip | resume => exact ⟨rfl, rfl, fun _ => rfl⟩
    case pause | setBudget | resetCount => exact ⟨rfl, rfl, id⟩
  rw [handle_of_command h]
  refine .smooth ?_ ?_ hkept.2.1 hkept.2.2
  · rw [RunsSmoothly, cycles_of_idle_command h idle]
    exact List.forall_mem_nil _
  · rw [if_neg hcommand]
    exact hkept.1

/-- **What every event does** to how a window ends. -/
theorem turn_handle (wf : window.paced.console.WellFormed) (event : Event) :
    Turn window event (window.handle event).1 := by
  cases h : event.command? with
  | none =>
      have spares := handle_spares h window
      refine .smooth ?_ spares.closings_eq spares.exitStatus_eq (spares.fault_eq.trans ·)
      rw [RunsSmoothly, cycles_of_no_command h]
      exact List.forall_mem_nil _
  | some command =>
      by_cases runs : command = .runFrame ∨ command = .stepOnce
      · exact turn_run wf h runs
      · exact turn_idle h runs window

/-! ## Whole runs -/

/-- **A window that nothing has ended yet:** it is open, and outside debugging no fault is on
record. -/
structure Calm (window : Window) : Prop where
  closings_eq : window.closings = 0
  exitStatus_eq : window.exitStatus = 0
  fault_eq : window.debug = false → window.paced.pacer.fault = none

/-- **The ways in which a run can have gone,** given the events that were played. -/
inductive Ended (window : Window) (history : List Event) (now : Window) : Prop where
  /-- The window is still open. -/
  | running (free : .press "ESCAPE" ∉ history)
      (smooth : window.debug = false → window.RunsSmoothly history)
      (closings : now.closings = 0) (exitStatus : now.exitStatus = 0)
      (calm : window.debug = false → now.paced.pacer.fault = none)
  /-- It was closed by the last event. -/
  | escaped (earlier : List Event) (split : history = earlier ++ [.press "ESCAPE"])
      (free : .press "ESCAPE" ∉ earlier)
      (smooth : window.debug = false → window.RunsSmoothly history)
      (closings : now.closings = 1) (exitStatus : now.exitStatus = 0)
      (calm : window.debug = false → now.paced.pacer.fault = none)
  /-- It was closed by the last cycle. -/
  | refused (earlier : List Event) (event : Event) (fault : Fault)
      (split : history = earlier ++ [event]) (free : .press "ESCAPE" ∉ history)
      (guarded : window.debug = false) (smooth : window.RunsSmoothly earlier)
      (refuses : window.Refuses history fault)
      (closings : now.closings = 1) (exitStatus : now.exitStatus = 1)
      (record : now.paced.pacer.fault = some fault)

/-- Cycles run smoothly in a row if they do from the first event on. -/
lemma runsSmoothly_cons {events : List Event} :
    window.RunsSmoothly (event :: events) ↔
      window.RunsSmoothly [event] ∧ (window.handle event).1.RunsSmoothly events := by
  rw [RunsSmoothly, ← List.singleton_append, cycles_append, List.forall_mem_append, after_cons,
    after_nil, RunsSmoothly, RunsSmoothly, (handle_fixed event window).1]

/-- A cycle that is refused later on is refused behind cycles that run smoothly. -/
lemma Refuses.cons {events : List Event} {fault : Fault} (smooth : window.RunsSmoothly [event])
    (refuses : (window.handle event).1.Refuses events fault) :
    window.Refuses (event :: events) fault := by
  obtain ⟨first, last, hcycles, hfirst, hlast⟩ := refuses
  rw [(handle_fixed event window).1] at hfirst hlast
  refine ⟨window.cycles [event] ++ first, last, ?_, ?_, hlast⟩
  · rw [← List.singleton_append, cycles_append, after_cons, after_nil, hcycles, List.append_assoc]
  · exact List.forall_mem_append.mpr ⟨smooth, hfirst⟩

/-- One more event at the beginning changes nothing about how a run has gone. -/
lemma Ended.cons {history : List Event} {now : Window}
    (smooth : window.debug = false → window.RunsSmoothly [event])
    (free : event ≠ .press "ESCAPE") (ended : Ended (window.handle event).1 history now) :
    Ended window (event :: history) now := by
  have hdebug := (handle_fixed event window).2.2
  have hcons : ∀ {events}, .press "ESCAPE" ∉ events → .press "ESCAPE" ∉ event :: events :=
    fun hrest hmem => (List.mem_cons.mp hmem).elim (fun h => free h.symm) hrest
  cases ended with
  | running hfree hsmooth closings exitStatus calm =>
      rw [hdebug] at hsmooth calm
      exact .running (hcons hfree)
        (fun guarded => runsSmoothly_cons.mpr ⟨smooth guarded, hsmooth guarded⟩) closings
        exitStatus calm
  | escaped earlier split hfree hsmooth closings exitStatus calm =>
      rw [hdebug] at hsmooth calm
      exact .escaped (event :: earlier) (congrArg (event :: ·) split) (hcons hfree)
        (fun guarded => runsSmoothly_cons.mpr ⟨smooth guarded, hsmooth guarded⟩) closings
        exitStatus calm
  | refused earlier last fault split hfree guarded hsmooth refuses closings exitStatus record =>
      rw [hdebug] at guarded
      exact .refused (event :: earlier) last fault (congrArg (event :: ·) split) (hcons hfree)
        guarded (runsSmoothly_cons.mpr ⟨smooth guarded, hsmooth⟩) (refuses.cons (smooth guarded))
        closings exitStatus record

/-- **Every run has gone in one of the three ways.** -/
theorem ended_of_calm (wf : window.paced.console.WellFormed) (calm : window.Calm)
    (events : List Event) :
    Ended window (played events window) (window.after (played events window)) := by
  induction events generalizing window with
  | nil =>
      exact .running List.not_mem_nil (fun _ => List.forall_mem_nil _) calm.closings_eq
        calm.exitStatus_eq calm.fault_eq
  | cons event rest ih =>
      have isOpen : window.isClosed = false := by simp [isClosed, calm.closings_eq]
      have hnext : (window.handle event).1.paced.console.WellFormed :=
        wellFormed_after wf [event]
      have hdebug := (handle_fixed event window).2.2
      rw [played_cons isOpen, after_cons]
      cases turn_handle wf event with
      | smooth smooth closings exitStatus hcalm =>
          rw [calm.closings_eq] at closings
          rw [calm.exitStatus_eq] at exitStatus
          by_cases hescape : event = .press "ESCAPE"
          · rw [if_pos hescape] at closings
            rw [played_of_isClosed (by simp [isClosed, closings])]
            exact .escaped [] (by rw [hescape]; rfl) List.not_mem_nil (fun _ => smooth) closings
              exitStatus fun guarded => hcalm (calm.fault_eq guarded)
          · rw [if_neg hescape] at closings
            refine (ih hnext ⟨closings, exitStatus, ?_⟩).cons (fun _ => smooth) hescape
            rw [hdebug]
            exact fun guarded => hcalm (calm.fault_eq guarded)
      | refused fault refuses command closings exitStatus record =>
          rw [calm.closings_eq] at closings
          rw [calm.exitStatus_eq] at exitStatus
          cases guarded : window.debug with
          | true =>
              rw [guarded, if_pos rfl] at closings exitStatus
              refine (ih hnext ⟨closings, exitStatus, ?_⟩).cons ?_ command
              · rw [hdebug, guarded]
                exact fun h => absurd h Bool.true_eq_false.mp
              · rw [guarded]
                exact fun h => absurd h Bool.true_eq_false.mp
          | false =>
              simp only [guarded, Bool.false_eq_true, if_false] at closings exitStatus
              rw [played_of_isClosed (by simp [isClosed, closings])]
              refine .refused [] event fault rfl ?_ guarded (List.forall_mem_nil _) refuses closings
                exitStatus record
              simpa using fun h => command h.symm

/-- Where a run is told by its last cycle, only that one is refused. -/
lemma Refuses.eq_last {events : List Event} {first last : List Console} {console : Console}
    {fault cause : Fault} (refuses : window.Refuses events fault)
    (hsplit : window.cycles events = first ++ console :: last)
    (hrefusal : console.refusal? window.setup = some cause) :
    last = [] ∧ (∀ other ∈ first, other.refusal? window.setup = none) ∧ cause = fault := by
  obtain ⟨smooth, final, hcycles, hsmooth, hfinal⟩ := refuses
  rw [hcycles] at hsplit
  rcases List.eq_nil_or_concat last with rfl | ⟨middle, other, rfl⟩
  · obtain ⟨rfl, hlast⟩ := List.append_inj' hsplit rfl
    obtain rfl := List.head_eq_of_cons_eq hlast
    rw [hfinal] at hrefusal
    exact ⟨rfl, hsmooth, (Option.some.inj hrefusal).symm⟩
  · rw [List.concat_eq_append, ← List.cons_append, ← List.append_assoc] at hsplit
    obtain ⟨rfl, -⟩ := List.append_inj' hsplit rfl
    have hnone := hsmooth console (by simp)
    rw [hrefusal] at hnone
    cases hnone

/-- **How a run of a window ends,** told from the events that were played and from the cycles that
were attempted. -/
structure Ending (window : Window) (history : List Event) (now : Window) : Prop where
  /-- The window is closed once at most, -/
  once : now.closings ≤ 1
  /-- namely if ESCAPE was pressed or, without debugging, a cycle was refused. -/
  closed_iff : now.isClosed = true ↔ .press "ESCAPE" ∈ history ∨
    window.debug = false ∧
      ∃ console ∈ window.cycles history, (console.refusal? window.setup).isSome
  /-- ESCAPE ends the run and leaves the exit status alone. -/
  escape : .press "ESCAPE" ∈ history →
    now.isClosed = true ∧ now.exitStatus = 0 ∧
      ∃ earlier, .press "ESCAPE" ∉ earlier ∧ history = earlier ++ [.press "ESCAPE"]
  /-- Without debugging the very first cycle that is refused ends the run: no cycle is attempted
  behind it, and no event is played behind the one to which it belongs. -/
  refusal : window.debug = false → ∀ first console last fault,
    window.cycles history = first ++ console :: last →
    console.refusal? window.setup = some fault →
      last = [] ∧ (∀ other ∈ first, other.refusal? window.setup = none) ∧
      now.isClosed = true ∧ now.exitStatus = 1 ∧ now.paced.pacer.fault = some fault ∧
      ∃ earlier event, history = earlier ++ [event] ∧ window.RunsSmoothly earlier
  /-- So the exit status tells whether there is a fault on record, -/
  exitStatus_iff : window.debug = false →
    (now.exitStatus = 1 ↔ now.paced.pacer.fault.isSome = true)
  /-- and it is never anything else. -/
  exitStatus_le : now.exitStatus ≤ 1
  /-- With debugging it stays as it is. -/
  debugging : window.debug = true → now.exitStatus = 0

/-- Cycles that run smoothly are not refused. -/
lemma RunsSmoothly.ne_some {events : List Event} {first last : List Console} {console : Console}
    {fault : Fault} (smooth : window.RunsSmoothly events)
    (hsplit : window.cycles events = first ++ console :: last) :
    console.refusal? window.setup ≠ some fault := by
  rw [smooth console (by simp [hsplit])]
  simp

/-- The ways in which a run can have gone, told in one. -/
lemma Ended.ending {history : List Event} {now : Window} (ended : Ended window history now) :
    Ending window history now := by
  cases ended with
  | running free smooth closings exitStatus calm =>
      have hopen : ¬ now.isClosed = true := by simp [isClosed, closings]
      exact {
        once := by simp [closings]
        closed_iff := by
          refine iff_of_false hopen ?_
          rintro (hmem | ⟨guarded, console, hmem, hrefused⟩)
          · exact free hmem
          · simp [smooth guarded console hmem] at hrefused
        escape := fun hmem => absurd hmem free
        refusal := fun guarded first console last fault hsplit hrefused =>
          absurd hrefused ((smooth guarded).ne_some hsplit)
        exitStatus_iff := fun guarded => by simp [exitStatus, calm guarded]
        exitStatus_le := by simp [exitStatus]
        debugging := fun _ => exitStatus }
  | escaped earlier split free smooth closings exitStatus calm =>
      have hclosed : now.isClosed = true := by simp [isClosed, closings]
      exact {
        once := Nat.le_of_eq closings
        closed_iff := iff_of_true hclosed (Or.inl (by simp [split]))
        escape := fun _ => ⟨hclosed, exitStatus, earlier, free, split⟩
        refusal := fun guarded first console last fault hsplit hrefused =>
          absurd hrefused ((smooth guarded).ne_some hsplit)
        exitStatus_iff := fun guarded => by simp [exitStatus, calm guarded]
        exitStatus_le := by simp [exitStatus]
        debugging := fun _ => exitStatus }
  | refused earlier event fault split free guarded smooth refuses closings exitStatus record =>
      have hclosed : now.isClosed = true := by simp [isClosed, closings]
      exact {
        once := Nat.le_of_eq closings
        closed_iff := by
          obtain ⟨first, last, hcycles, -, hlast⟩ := refuses
          exact iff_of_true hclosed
            (Or.inr ⟨guarded, last, by simp [hcycles], by simp [hlast]⟩)
        escape := fun hmem => absurd hmem free
        refusal := by
          intro _ first console last cause hsplit hrefused
          obtain ⟨hnil, hfirst, rfl⟩ := refuses.eq_last hsplit hrefused
          exact ⟨hnil, hfirst, hclosed, exitStatus, record, earlier, event, split, smooth⟩
        exitStatus_iff := fun _ => by simp [exitStatus, record]
        exitStatus_le := Nat.le_of_eq exitStatus
        debugging := fun debugging => by simp [guarded] at debugging }

/-- A new window is calm. -/
lemma IsNew.calm (new : window.IsNew) : window.Calm := by
  obtain ⟨options, setup, journal, program, machine, -, rfl⟩ := new
  exact ⟨rfl, rfl, fun _ => rfl⟩

/-- **How a window ends.**  Let any events happen to a window that has just opened, with any program
and any budget.  The window is closed once at most: when ESCAPE is pressed, with exit status 0, or
outside debugging at the very first cycle that is refused, with exit status 1.  Then the fault is on
record, no other cycle is attempted and no other event is played. -/
theorem ending_of_play (new : window.IsNew) (events : List Event) :
    Ending window (played events window) (play events window).1 := by
  rw [play_eq]
  exact (ended_of_calm new.wellFormed new.calm events).ending

/-- A program that loads a register and then returns from nowhere, with room for both in a frame.
The frame closes the window before ESCAPE is pressed. -/
theorem ending_of_play_illegal_return :
    let machine := (Machine.powerOn.load [0x60, 0x01, 0x00, 0xEE]).getD Machine.powerOn
    let window := opened { program := "return.ch8", cycles := 2 } {} machine {}
    let now := (play [.draw, .tick, .press "ESCAPE"] window).1
    window.IsNew ∧ played [.draw, .tick, .press "ESCAPE"] window = [.draw, .tick] ∧
      now.isClosed = true ∧ now.closings ≤ 1 ∧ now.exitStatus = 1 ∧
        now.paced.pacer.fault = some { kind := .illegalReturn } := by
  intro machine window now
  have new : window.IsNew :=
    ⟨{ program := "return.ch8", cycles := 2 }, {}, {}, [0x60, 0x01, 0x00, 0xEE], machine, rfl, rfl⟩
  have ending : Ending window (played [.draw, .tick, .press "ESCAPE"] window) now :=
    ending_of_play new [.draw, .tick, .press "ESCAPE"]
  have hplayed : played [.draw, .tick, .press "ESCAPE"] window = [.draw, .tick] := by
    decide +kernel
  have hlast : (window.cycles [.draw, .tick]).map (Console.refusal? window.setup) =
      [none, some { kind := .illegalReturn }] := by decide +kernel
  obtain ⟨first, rest, hcycles, -, hrest⟩ :=
    List.map_eq_append_iff.mp (hlast.trans (List.singleton_append).symm)
  obtain ⟨console, last, rfl, hconsole, -⟩ := List.map_eq_cons_iff.mp hrest
  obtain ⟨-, -, hclosed, hstatus, hfault, -⟩ :=
    ending.refusal rfl first console last _ (by rw [hplayed, hcycles]) hconsole
  exact ⟨new, hplayed, hclosed, ending.once, hstatus, hfault⟩

end Window

end ChipEight
