import ChipEight.Proofs.Faults

/-!
# What a pacer does

A pacer attempts cycles, and what it does besides follows from how they went.  Here a batch is told
from the outcomes of its cycles, and everything that a session keeps of it is read off them.

* `Console.outcomes` — how cycles go that are attempted one after another.
* `Console.Attempts` — the cycles that a budget allows: none behind one that ends the batch, and
  fewer than the budget only if there is such a one.
* `Paced.attempt`, `Paced.batch_succ` — a pacer attempts one cycle, and a batch is one after another.
* `Paced.batch_induction`, `Paced.perform_run_induction` — what every attempt keeps is kept by a
  batch, a frame and a single cycle.
* `Paced.batch_eq` — a batch is the attempts that its budget allows.
* `Session.events`, `Session.allEvents` — what happens while a pacer does as told.
* **`Session.frame_discipline`** — what becomes of a session each time its pacer is told something,
  in any run.
-/

namespace ChipEight

/-! ## How a cycle went -/

namespace Outcome

/-- Whether a cycle ends its batch: only one that lets the program go on without a picture to show
does not. -/
def endsBatch : Outcome → Bool
  | .ran .next _ _ | .ran .jumped _ _ => false
  | _ => true

/-- Whether a cycle was executed.  An idle one was not, and neither was one that was refused. -/
def isExecuted : Outcome → Bool
  | .ran .waiting _ _ | .faulted _ _ | .stuck _ _ => false
  | .ran _ _ _ => true

/-- No instruction waits by itself, so a cycle that carries one out is executed. -/
lemma isExecuted_ran_flow (instruction : Instruction) (trace : Option Trace) (left : Console) :
    (ran instruction.flow trace left).isExecuted = true := by
  unfold Instruction.flow
  split <;> rfl

/-- The fault with which a cycle was refused. -/
def fault? : Outcome → Option Fault
  | .faulted fault _ => some fault
  | .ran _ _ _ | .stuck _ _ => none

/-- The record of a cycle that was refused. -/
def report? : Outcome → Option Record
  | .faulted fault left =>
    some { level := .error, text := Paced.faultReport fault left.machine }
  | .ran _ _ _ | .stuck _ _ => none

/-- What a pacer makes of a cycle. -/
def event : Outcome → Pacer.Event
  | .ran flow trace _ => .ran flow trace
  | .faulted fault left => .faulted fault (Paced.faultReport fault left.machine)
  | .stuck misfit _ => .stuck misfit

end Outcome

/-- A pacer after an attempted cycle. -/
def Pacer.settle (pacer : Pacer) : Outcome → Pacer
  | .ran .waiting _ _ => pacer
  | .ran _ _ _ => pacer.count
  | .faulted fault _ => pacer.halt fault
  | .stuck _ _ => pacer

namespace Console

variable {setup : Setup} {console : Console}

/-- **How cycles go that are attempted one after another.** -/
def outcomes (setup : Setup) : Nat → Console → List Outcome
  | 0, _ => []
  | count + 1, console =>
    console.step setup :: outcomes setup count (console.step setup).left

/-- **The cycles that a budget allows.** -/
structure Attempts (setup : Setup) (console : Console) (budget : Nat) (outcomes : List Outcome) :
    Prop where
  /-- They are attempted one after another. -/
  successive : outcomes = console.outcomes setup outcomes.length
  within : outcomes.length ≤ budget
  /-- None is attempted behind one that ends the batch. -/
  last : ∀ first outcome rest, outcomes = first ++ outcome :: rest → outcome.endsBatch = true →
    rest = []
  /-- Only such a one leaves some of the budget over. -/
  ended : outcomes.length < budget → ∃ outcome ∈ outcomes, outcome.endsBatch = true

/-- No cycles are attempted without a budget. -/
lemma attempts_zero : Attempts setup console 0 [] where
  successive := rfl
  within := Nat.le_refl 0
  last := by simp
  ended := by simp

/-- A cycle that ends the batch is the only one. -/
lemma attempts_of_endsBatch {budget : Nat} (ends : (console.step setup).endsBatch = true) :
    Attempts setup console (budget + 1) [console.step setup] where
  successive := rfl
  within := by simp
  last := by
    intro first outcome rest h _
    cases first with
    | nil => exact (List.cons.inj h).2.symm
    | cons other first => simp at h
  ended := fun _ => ⟨_, List.mem_singleton_self _, ends⟩

/-- A cycle that does not end the batch is followed by those that the rest of the budget allows. -/
lemma Attempts.cons {budget : Nat} {outcomes : List Outcome}
    (goes : (console.step setup).endsBatch = false)
    (attempts : Attempts setup (console.step setup).left budget outcomes) :
    Attempts setup console (budget + 1) (console.step setup :: outcomes) where
  successive := by
    rw [List.length_cons, Console.outcomes, ← attempts.successive]
  within := by
    rw [List.length_cons]
    exact Nat.succ_le_succ attempts.within
  last := by
    intro first outcome rest h ends
    cases first with
    | nil =>
        obtain ⟨rfl, -⟩ := List.cons.inj h
        rw [goes] at ends
        cases ends
    | cons other first => exact attempts.last first outcome rest (List.cons.inj h).2 ends
  ended := by
    intro hlt
    rw [List.length_cons] at hlt
    obtain ⟨outcome, hmem, ends⟩ := attempts.ended (Nat.lt_of_succ_lt_succ hlt)
    exact ⟨outcome, List.mem_cons_of_mem _ hmem, ends⟩

/-- Cycles that are attempted on a well-formed console are never stuck. -/
lemma ne_stuck_of_mem_outcomes {count : Nat} (wf : console.WellFormed) {misfit : Misfit}
    {left : Console} : Outcome.stuck misfit left ∉ console.outcomes setup count := by
  induction count generalizing console with
  | zero => simp [outcomes]
  | succ count ih =>
      have hnext : (console.act setup .cycle).WellFormed := wf.act .cycle
      rw [outcomes, List.mem_cons, not_or]
      exact ⟨(step_ne_stuck wf misfit left).symm, ih hnext⟩

/-- The console that the last of some cycles leaves behind. -/
lemma acts_replicate_of_outcomes_eq {count : Nat} {first : List Outcome} {outcome : Outcome}
    (h : console.outcomes setup count = first ++ [outcome]) :
    console.acts setup (.replicate count .cycle) = outcome.left := by
  induction count generalizing console first with
  | zero => simp [outcomes] at h
  | succ count ih =>
      rw [List.replicate_succ, acts_cons, act]
      cases first with
      | nil =>
          obtain ⟨rfl, hnone⟩ := List.cons.inj h
          cases count with
          | zero => rfl
          | succ count => simp [outcomes] at hnone
      | cons other first => exact ih (List.cons.inj h).2

/-- A cycle that ends the batch comes last, -/
lemma Attempts.eq_append_of_mem {budget : Nat} {outcomes : List Outcome} {outcome : Outcome}
    (attempts : Attempts setup console budget outcomes) (hmem : outcome ∈ outcomes)
    (ends : outcome.endsBatch = true) : ∃ first, outcomes = first ++ [outcome] := by
  obtain ⟨first, rest, hsplit⟩ := List.append_of_mem hmem
  rw [attempts.last first outcome rest hsplit ends] at hsplit
  exact ⟨first, hsplit⟩

/-- and what it leaves behind is what the batch leaves behind. -/
lemma Attempts.acts_eq_left_of_mem {budget : Nat} {outcomes : List Outcome} {outcome : Outcome}
    (attempts : Attempts setup console budget outcomes) (hmem : outcome ∈ outcomes)
    (ends : outcome.endsBatch = true) :
    console.acts setup (.replicate outcomes.length .cycle) = outcome.left := by
  obtain ⟨first, hsplit⟩ := attempts.eq_append_of_mem hmem ends
  exact acts_replicate_of_outcomes_eq (attempts.successive.symm.trans hsplit)

end Console

/-! ## Batches -/

namespace Paced

variable {setup : Setup} {paced : Paced}

/-- **A pacer attempts one cycle.** -/
def attempt (setup : Setup) (paced : Paced) : Paced where
  console := (paced.console.step setup).left
  pacer := paced.pacer.settle (paced.console.step setup)

/-- A batch attempts a cycle, and goes on if that did not end it. -/
lemma batch_succ (setup : Setup) (budget : Nat) (paced : Paced) :
    batch setup (budget + 1) paced =
      if (paced.console.step setup).endsBatch then
        (paced.attempt setup, [(paced.console.step setup).event])
      else
        let more := batch setup budget (paced.attempt setup)
        (more.1, (paced.console.step setup).event :: more.2) := by
  rw [batch, attempt]
  cases hstep : paced.console.step setup with
  | faulted fault left => rfl
  | stuck misfit left => rfl
  | ran flow trace left => cases flow <;> rfl

/-- **What every attempt keeps is kept by a batch.** -/
lemma batch_induction {motive : Paced → Prop}
    (keep : ∀ paced, motive paced → motive (paced.attempt setup)) (budget : Nat) :
    ∀ {paced}, motive paced → motive (batch setup budget paced).1 := by
  induction budget with
  | zero => exact fun h => h
  | succ budget ih =>
      intro paced h
      rw [batch_succ]
      split
      · exact keep paced h
      · exact ih (keep paced h)

/-- **A batch is the attempts that its budget allows.** -/
theorem batch_eq (setup : Setup) (budget : Nat) (paced : Paced) :
    ∃ outcomes, paced.console.Attempts setup budget outcomes ∧
      batch setup budget paced =
        ({ console := paced.console.acts setup (.replicate outcomes.length .cycle)
           pacer := outcomes.foldl Pacer.settle paced.pacer },
          outcomes.map Outcome.event) := by
  induction budget generalizing paced with
  | zero => exact ⟨[], Console.attempts_zero, rfl⟩
  | succ budget ih =>
      rw [batch_succ]
      cases hends : (paced.console.step setup).endsBatch with
      | true => exact ⟨_, Console.attempts_of_endsBatch hends, rfl⟩
      | false =>
          obtain ⟨outcomes, attempts, hbatch⟩ := ih (paced.attempt setup)
          refine ⟨_, attempts.cons hends, ?_⟩
          simp only [hbatch, Bool.false_eq_true, if_false]
          rfl

/-- Presenting a picture changes nothing. -/
lemma present_fst (done : Paced × List Pacer.Event) : (present done).1 = done.1 := by
  rw [present]
  split <;> rfl

/-- Cycles that are never stuck leave no misfit behind. -/
lemma findSome?_misfit_map_event {outcomes : List Outcome}
    (smooth : ∀ misfit left, Outcome.stuck misfit left ∉ outcomes) :
    (outcomes.map Outcome.event).findSome? Pacer.Event.misfit? = none := by
  rw [List.findSome?_eq_none_iff]
  intro event hmem
  obtain ⟨outcome, houtcome, rfl⟩ := List.mem_map.mp hmem
  cases outcome with
  | ran flow trace left => rfl
  | faulted fault left => rfl
  | stuck misfit left => exact absurd houtcome (smooth misfit left)

end Paced

/-! ## What a pacer is told -/

/-- How many cycles a pacer may attempt when it is told something. -/
def Pacer.allowance (pacer : Pacer) : Pacer.Command → Nat
  | .runFrame => if pacer.paused then 0 else pacer.budget.toNat
  | .stepOnce => 1
  | _ => 0

/-- Whether a picture is presented on a command. -/
def Pacer.Command.presents : Pacer.Command → Bool
  | .runFrame | .stepOnce | .skip => true
  | _ => false

/-- Only on a command that presents a picture are cycles attempted. -/
lemma Pacer.allowance_eq_zero {pacer : Pacer} {command : Pacer.Command}
    (h : command.presents = false) : pacer.allowance command = 0 := by
  cases command
  case runFrame | stepOnce => cases h
  all_goals rfl

namespace Paced

variable {setup : Setup} {paced : Paced}

/-- A frame and a single cycle are batches, and each is followed by a picture. -/
lemma perform_eq_present_batch {command : Pacer.Command}
    (runs : command = .runFrame ∨ command = .stepOnce) :
    perform setup command paced =
      present (batch setup (paced.pacer.allowance command) paced) := by
  rcases runs with rfl | rfl
  · simp only [perform, Pacer.allowance]
    split <;> rfl
  · rfl

/-- **What every attempt keeps of a well-formed console is kept by a frame and a single cycle.** -/
lemma perform_run_induction {motive : Paced → Prop}
    (keep : ∀ next : Paced, next.console.WellFormed → motive next → motive (next.attempt setup))
    (wf : paced.console.WellFormed) {command : Pacer.Command}
    (runs : command = .runFrame ∨ command = .stepOnce) (h : motive paced) :
    motive (perform setup command paced).1 := by
  -- a batch keeps the console well-formed as well, for the next attempt in it
  have both : ∀ next : Paced, next.console.WellFormed ∧ motive next →
      (next.attempt setup).console.WellFormed ∧ motive (next.attempt setup) :=
    fun next h => ⟨h.1.act .cycle, keep next h.1 h.2⟩
  rw [perform_eq_present_batch runs, present_fst]
  exact (batch_induction both _ ⟨wf, h⟩).2

/-- **A frame and a single cycle, told from how the attempted cycles went.** -/
theorem perform_run (setup : Setup) (paced : Paced) (wf : paced.console.WellFormed)
    {command : Pacer.Command}
    (runs : command = .runFrame ∨ command = .stepOnce) :
    ∃ outcomes, paced.console.Attempts setup (paced.pacer.allowance command) outcomes ∧
      let console := paced.console.acts setup (.replicate outcomes.length .cycle)
      perform setup command paced =
        ({ console, pacer := outcomes.foldl Pacer.settle paced.pacer },
          outcomes.map Outcome.event ++ [.presented console.machine.screen]) := by
  obtain ⟨outcomes, attempts, hbatch⟩ :=
    batch_eq setup (paced.pacer.allowance command) paced
  refine ⟨outcomes, attempts, ?_⟩
  have smooth : ∀ misfit left, Outcome.stuck misfit left ∉ outcomes := by
    intro misfit left
    rw [attempts.successive]
    exact Console.ne_stuck_of_mem_outcomes wf
  rw [perform_eq_present_batch runs, hbatch, present, findSome?_misfit_map_event smooth]
  rfl

end Paced

namespace Pacer

/-- A pacer counts the cycles that were executed. -/
lemma cycles_foldl_settle (pacer : Pacer) (outcomes : List Outcome) :
    (outcomes.foldl settle pacer).cycles =
      pacer.cycles + outcomes.countP Outcome.isExecuted := by
  induction outcomes generalizing pacer with
  | nil => rfl
  | cons outcome rest ih =>
      rw [List.foldl_cons, ih, List.countP_cons]
      have hone : (pacer.settle outcome).cycles =
          pacer.cycles + if outcome.isExecuted then 1 else 0 := by
        cases outcome with
        | ran flow trace left => cases flow <;> rfl
        | faulted fault left => rfl
        | stuck misfit left => rfl
      omega

/-- A cycle that was refused puts its fault on record, and any other leaves the record alone. -/
lemma fault_settle (pacer : Pacer) (outcome : Outcome) :
    (pacer.settle outcome).fault = outcome.fault?.or pacer.fault := by
  cases outcome with
  | ran flow trace left => cases flow <;> rfl
  | faulted fault left => rfl
  | stuck misfit left => rfl

end Pacer

/-! ## What a session keeps of it -/

/-- A report of a fault is kept whatever the threshold. -/
lemma Journal.note_error (journal : Journal) (text : String) :
    journal.note .error text = [{ level := .error, text }] := by
  rw [note, if_pos]
  cases journal.threshold <;> decide

/-- A trace entry is never kept as an error. -/
lemma Journal.filter_error_trace (journal : Journal) (entry : Trace) :
    (journal.trace entry).filter (·.level = .error) = [] := by
  rw [trace, note]
  split
  · split <;> rfl
  · rfl

namespace Outcome

/-- The errors that a cycle leaves in a journal. -/
lemma filter_error_records (journal : Journal) (outcome : Outcome) :
    (outcome.event.records journal).filter (·.level = .error) = outcome.report?.toList := by
  cases outcome with
  | ran flow trace left =>
      cases trace with
      | none => rfl
      | some entry => exact journal.filter_error_trace entry
  | faulted fault left =>
      simp only [event, Pacer.Event.records, journal.note_error]
      rfl
  | stuck misfit left => rfl

/-- An audience is given notice of each cycle that was refused. -/
lemma receive_event (audience : Audience) (outcome : Outcome) :
    audience.receive outcome.event =
      { audience with
        reported := audience.reported ++ if audience.listens then outcome.fault?.toList else [] } := by
  cases outcome with
  | ran flow trace left => simp [event, Audience.receive, fault?]
  | faulted fault left =>
      simp only [event, Audience.receive, fault?, Option.toList_some]
      split <;> simp
  | stuck misfit left => simp [event, Audience.receive, fault?]

/-- The errors that cycles leave in a journal. -/
lemma filter_error_events (journal : Journal) (outcomes : List Outcome) :
    ((outcomes.map event).flatMap (Pacer.Event.records journal)).filter (·.level = .error) =
      outcomes.filterMap report? := by
  induction outcomes with
  | nil => rfl
  | cons outcome rest ih =>
      rw [List.map_cons, List.flatMap_cons, List.filter_append, ih, filter_error_records]
      cases h : outcome.report? with
      | none => rw [List.filterMap_cons_none h]; rfl
      | some record => rw [List.filterMap_cons_some h]; rfl

/-- An audience is given notice of all the cycles that were refused, in order. -/
lemma foldl_receive_events (audience : Audience) (outcomes : List Outcome) :
    (outcomes.map event).foldl Audience.receive audience =
      { audience with
        reported :=
          audience.reported ++ if audience.listens then outcomes.filterMap fault? else [] } := by
  induction outcomes generalizing audience with
  | nil => simp
  | cons outcome rest ih =>
      rw [List.map_cons, List.foldl_cons, receive_event, ih]
      cases h : outcome.fault? with
      | none => simp [List.filterMap_cons_none h]
      | some fault =>
          rw [List.filterMap_cons_some h]
          split <;> simp

end Outcome

namespace Session

variable {session : Session} {pacer : Pacer} {command : Pacer.Command}

/-- What happens while the pacer does what an operation tells it. -/
def events (session : Session) : Operation → List Pacer.Event
  | .pace command =>
    match session.pacer with
    | none => []
    | some pacer => (Paced.perform session.setup command { console := session.console, pacer }).2
  | _ => []

/-- What happens while the pacer does what operations tell it, one after another. -/
def allEvents : List Operation → Session → List Pacer.Event
  | [], _ => []
  | operation :: rest, session =>
    session.events operation ++ allEvents rest (session.perform operation).session

/-- **What becomes of a session when its pacer is told something,** read off the outcomes of the
cycles that were attempted. -/
structure Disciplined (session : Session) (pacer : Pacer) (command : Pacer.Command)
    (outcomes : List Outcome) (after : Pacer) (done : Done) : Prop where
  attempts : session.console.Attempts session.setup (pacer.allowance command) outcomes
  /-- Nothing else is attempted, and the picture comes last. -/
  events_eq : session.events (.pace command) = outcomes.map Outcome.event ++
    if command.presents then [.presented done.session.console.machine.screen] else []
  replied : ∃ reply, done.reply = .ok reply
  console_eq : command ≠ .skip → done.session.console =
    session.console.acts session.setup (.replicate outcomes.length .cycle)
  pacer_eq : done.session.pacer = some after
  /-- Just the executed cycles are counted. -/
  counted : command ≠ .resetCount →
    after.cycles = pacer.cycles + outcomes.countP Outcome.isExecuted
  /-- A cycle that is refused stops the pacer. -/
  halted : ∀ fault left, .faulted fault left ∈ outcomes →
    after.fault = some fault ∧ after.paused = true
  /-- It leaves one report, -/
  reported : done.records.filter (·.level = .error) = outcomes.filterMap Outcome.report?
  /-- and notice is given of it once. -/
  noticed : done.session.audience.reported = session.audience.reported ++
    if session.audience.listens then outcomes.filterMap Outcome.fault? else []
  /-- One picture is presented, -/
  presented : done.session.audience.presented =
    session.audience.presented + if command.presents then 1 else 0
  /-- which is the screen as it is now, -/
  shown : command.presents = true →
    done.session.audience.shown = done.session.console.machine.screen
  /-- and shows a sprite as it was drawn. -/
  drawn : ∀ trace left, .ran .drew trace left ∈ outcomes →
    done.session.audience.shown = left.machine.screen

/-- The console and the pacer of a session are what the pacer makes of them. -/
lemma perform_pace_paced (hpacer : session.pacer = some pacer) (command : Pacer.Command) :
    let done := (Paced.perform session.setup command { console := session.console, pacer }).1
    (session.perform (.pace command)).session.console = done.console ∧
      (session.perform (.pace command)).session.pacer = some done.pacer := by
  simp only [perform, pace, hpacer, and_self]

/-- What a session makes of what its pacer has done, if no misfit was met. -/
lemma perform_pace {console : Console} {after : Pacer} {events : List Pacer.Event}
    (hpacer : session.pacer = some pacer)
    (hdone : Paced.perform session.setup command { console := session.console, pacer } =
      ({ console, pacer := after }, events))
    (smooth : events.findSome? Pacer.Event.misfit? = none) :
    session.events (.pace command) = events ∧ ∃ reply, session.perform (.pace command) =
      { reply := .ok reply
        records := events.flatMap (Pacer.Event.records session.journal)
        session := { session with
          console
          pacer := some after
          audience := events.foldl Audience.receive session.audience } } := by
  simp only [Session.events, perform, pace, hpacer, hdone, smooth, true_and]
  exact ⟨_, rfl⟩

/-- A frame and a single cycle keep the discipline. -/
lemma disciplined_run (wf : session.console.WellFormed) (hpacer : session.pacer = some pacer)
    (runs : command = .runFrame ∨ command = .stepOnce) :
    ∃ outcomes after,
      Disciplined session pacer command outcomes after (session.perform (.pace command)) := by
  obtain ⟨outcomes, attempts, hperform⟩ :=
    Paced.perform_run session.setup { console := session.console, pacer } wf runs
  have smooth : ∀ misfit left, Outcome.stuck misfit left ∉ outcomes := by
    intro misfit left
    rw [attempts.successive]
    exact Console.ne_stuck_of_mem_outcomes wf
  obtain ⟨hevents, reply, hdone⟩ := perform_pace hpacer hperform (by
    rw [List.findSome?_append, Paced.findSome?_misfit_map_event smooth]
    rfl)
  have hpresents : command.presents = true := by
    rcases runs with rfl | rfl <;> rfl
  rw [hdone]
  refine ⟨outcomes, outcomes.foldl Pacer.settle pacer, ?_⟩
  exact {
    attempts
    events_eq := by rw [hevents, if_pos hpresents]
    replied := ⟨reply, rfl⟩
    console_eq := fun _ => rfl
    pacer_eq := rfl
    counted := fun _ => Pacer.cycles_foldl_settle pacer outcomes
    halted := by
      intro fault left hmem
      obtain ⟨first, hsplit⟩ := attempts.eq_append_of_mem hmem rfl
      rw [hsplit, List.foldl_append]
      exact ⟨rfl, rfl⟩
    reported := by
      rw [List.flatMap_append, List.filter_append, Outcome.filter_error_events]
      exact List.append_nil _
    noticed := by
      rw [List.foldl_append, Outcome.foldl_receive_events]
      rfl
    presented := by
      rw [List.foldl_append, Outcome.foldl_receive_events, if_pos hpresents]
      rfl
    shown := by
      intro _
      rw [List.foldl_append, Outcome.foldl_receive_events]
      rfl
    drawn := by
      intro trace left hmem
      have hleft := attempts.acts_eq_left_of_mem hmem rfl
      rw [List.foldl_append, Outcome.foldl_receive_events]
      exact congrArg (fun console => console.machine.screen) hleft }

/-- A command on which no cycle is attempted keeps the discipline. -/
lemma disciplined_of_no_cycles {console : Console} {after : Pacer}
    (hpacer : session.pacer = some pacer) (hallowance : pacer.allowance command = 0)
    (hdone : Paced.perform session.setup command { console := session.console, pacer } =
      ({ console, pacer := after },
        if command.presents then [.presented console.machine.screen] else []))
    (hconsole : command ≠ .skip → console = session.console)
    (hcycles : command ≠ .resetCount → after.cycles = pacer.cycles) :
    Disciplined session pacer command [] after (session.perform (.pace command)) := by
  obtain ⟨hevents, reply, hperform⟩ := perform_pace hpacer hdone (by split <;> rfl)
  rw [hperform]
  exact {
    attempts := hallowance ▸ Console.attempts_zero
    events_eq := hevents
    replied := ⟨reply, rfl⟩
    console_eq := hconsole
    pacer_eq := rfl
    counted := hcycles
    halted := fun _ _ h => absurd h List.not_mem_nil
    reported := by split <;> rfl
    noticed := by
      split
      all_goals
        simp only [List.foldl_cons, List.foldl_nil, Audience.receive, List.filterMap_nil, ite_self,
          List.append_nil]
    presented := by split <;> rfl
    shown := by
      intro hpresents
      rw [if_pos hpresents]
      rfl
    drawn := fun _ _ h => absurd h List.not_mem_nil }

/-- **Whatever a pacer is told, it keeps the discipline.** -/
theorem disciplined_perform (wf : session.console.WellFormed)
    (hpacer : session.pacer = some pacer) (command : Pacer.Command) :
    ∃ outcomes after,
      Disciplined session pacer command outcomes after (session.perform (.pace command)) := by
  cases command
  case runFrame => exact disciplined_run wf hpacer (Or.inl rfl)
  case stepOnce => exact disciplined_run wf hpacer (Or.inr rfl)
  case skip =>
    exact ⟨[], _, disciplined_of_no_cycles hpacer rfl rfl (fun h => absurd rfl h) fun _ => rfl⟩
  case resetCount =>
    exact ⟨[], _, disciplined_of_no_cycles hpacer rfl rfl (fun _ => rfl) fun h => absurd rfl h⟩
  case togglePause =>
    cases hpaused : pacer.paused with
    | true =>
        refine ⟨[], pacer.resume, disciplined_of_no_cycles hpacer rfl ?_ (fun _ => rfl) fun _ => rfl⟩
        simp only [Paced.perform, hpaused, if_true]
        rfl
    | false =>
        refine ⟨[], { pacer with paused := true },
          disciplined_of_no_cycles hpacer rfl ?_ (fun _ => rfl) fun _ => rfl⟩
        simp only [Paced.perform, hpaused, Bool.false_eq_true, if_false]
        rfl
  all_goals
    exact ⟨[], _, disciplined_of_no_cycles hpacer rfl rfl (fun _ => rfl) fun _ => rfl⟩

/-! ## Whole runs -/

/-- **Each sprite is shown before anything else happens.** -/
def ShowsDraws (events : List Pacer.Event) : Prop :=
  ∀ earlier trace later, events = earlier ++ .ran .drew trace :: later →
    ∃ picture rest, later = .presented picture :: rest

/-- Sprites that are shown in one part and in the next are shown in both together. -/
lemma ShowsDraws.append {first last : List Pacer.Event} (hfirst : ShowsDraws first)
    (hlast : ShowsDraws last) : ShowsDraws (first ++ last) := by
  intro earlier trace later h
  rcases List.append_eq_append_iff.mp h with ⟨middle, -, hmiddle⟩ | ⟨middle, hmiddle, hrest⟩
  · exact hlast middle trace later hmiddle
  · cases middle with
    | nil => exact hlast [] trace later hrest.symm
    | cons event middle =>
        obtain ⟨rfl, rfl⟩ := List.cons.inj hrest
        obtain ⟨picture, rest, rfl⟩ := hfirst earlier trace middle hmiddle
        exact ⟨picture, rest ++ last, rfl⟩

/-- What a disciplined pacer presents, it presents behind all the cycles. -/
lemma Disciplined.showsDraws {outcomes : List Outcome} {after : Pacer} {done : Done}
    (disciplined : Disciplined session pacer command outcomes after done) :
    ShowsDraws (session.events (.pace command)) := by
  have attempts := disciplined.attempts
  intro earlier trace later h
  rw [disciplined.events_eq] at h
  cases hpresents : command.presents with
  | false =>
      -- without a picture there is no allowance and no event at all
      have hnone : outcomes = [] := by
        have hle := attempts.within
        rw [Pacer.allowance_eq_zero hpresents] at hle
        exact List.eq_nil_of_length_eq_zero (Nat.le_zero.mp hle)
      simp [hnone, hpresents] at h
  | true =>
      rw [hpresents, if_pos rfl] at h
      rcases List.eq_nil_or_concat later with rfl | ⟨middle, event, rfl⟩
      · have := (List.append_inj' h rfl).2
        cases this
      · rw [List.concat_eq_append, ← List.cons_append, ← List.append_assoc] at h
        obtain ⟨hevents, hpicture⟩ := List.append_inj' h rfl
        obtain ⟨first, rest, rfl, -, hrest⟩ := List.map_eq_append_iff.mp hevents
        obtain ⟨outcome, others, rfl, houtcome, hothers⟩ := List.map_eq_cons_iff.mp hrest
        have hdrew : outcome.endsBatch = true := by
          cases outcome with
          | ran flow _ _ => cases houtcome; rfl
          | faulted _ _ => cases houtcome
          | stuck _ _ => cases houtcome
        obtain rfl := attempts.last first outcome others rfl hdrew
        obtain rfl : middle = [] := hothers.symm
        exact ⟨_, [], hpicture.symm⟩

/-- The pacer shows each sprite, whatever a host does. -/
lemma showsDraws_allEvents {operations : List Operation} (hpacer : session.pacer.isSome)
    (wf : session.console.WellFormed) (orderly : ∀ operation ∈ operations, operation.IsOrderly) :
    ShowsDraws (allEvents operations session) := by
  induction operations generalizing session with
  | nil => exact fun earlier _ _ h => by simp [allEvents] at h
  | cons operation rest ih =>
      have hnext := wellFormed_perform (orderly operation List.mem_cons_self) wf
      have hrest := ih (isSome_pacer_perform operation hpacer) hnext
        fun other hmem => orderly other (List.mem_cons_of_mem _ hmem)
      refine ShowsDraws.append ?_ hrest
      cases operation with
      | pace command =>
          obtain ⟨pacer, hsome⟩ := Option.isSome_iff_exists.mp hpacer
          obtain ⟨outcomes, after, disciplined⟩ := disciplined_perform wf hsome command
          exact disciplined.showsDraws
      | _ => exact fun earlier _ _ h => by simp [events] at h

/-- **The discipline of frames.**  Let a session with a pacer be in any state that a host can bring
about, and let the host go on in any orderly way.  Each time the pacer is told something, it keeps
the discipline: a frame attempts cycles until its budget is used up or one of them draws, waits or
is refused, and none while the pacer is paused; a single step attempts one cycle; the executed cycles
are counted; a refused one stops the pacer and is reported once; and one picture follows a frame, a
step or a skip.  So whatever else happens, each sprite is shown before the next cycle runs. -/
theorem frame_discipline (reach : Console.Reachable session.setup session.console)
    (hpacer : session.pacer.isSome) {operations : List Operation}
    (orderly : ∀ operation ∈ operations, operation.IsOrderly) :
    (∀ first command last, operations = first ++ .pace command :: last →
      let now := (performAll first session).2
      ∃ pacer outcomes after, now.pacer = some pacer ∧
        Disciplined now pacer command outcomes after (now.perform (.pace command))) ∧
      ShowsDraws (allEvents operations session) := by
  have wf := reach.wellFormed
  refine ⟨fun first command last hsplit => ?_, showsDraws_allEvents hpacer wf orderly⟩
  subst hsplit
  have hfirst : ∀ operation ∈ first, operation.IsOrderly := fun operation hmem =>
    orderly operation (List.mem_append_left _ hmem)
  obtain ⟨pacer, hsome⟩ := Option.isSome_iff_exists.mp (isSome_pacer_performAll first hpacer)
  obtain ⟨outcomes, after, disciplined⟩ :=
    disciplined_perform (wellFormed_performAll hfirst wf) hsome command
  exact ⟨pacer, outcomes, after, hsome, disciplined⟩

/-- A program that draws the same sprite twice and then returns from nowhere, with room for ten cycles
in a frame.  Two frames draw, and a key is pressed between them; the third one is refused. -/
theorem frame_discipline_two_sprites :
    let operations : List Operation :=
      [.load [0xD0, 0x05, 0xD0, 0x05, 0x00, 0xEE], .pace .runFrame, .press 3, .pace .runFrame,
        .pace .runFrame]
    let now := (performAll (operations.take 4) { pacer := some { budget := 10 } }).2
    (∃ pacer outcomes after, now.pacer = some pacer ∧
        Disciplined now pacer .runFrame outcomes after (now.perform (.pace .runFrame)) ∧
        after.cycles = 2 ∧ after.fault = some { kind := .illegalReturn }) ∧
      ∃ trace picture rest, allEvents operations { pacer := some { budget := 10 } } =
        .ran .drew trace :: .presented picture :: rest := by
  intro operations now
  have reach : Console.Reachable {} {} := Console.reachable_iff.mpr ⟨[], rfl⟩
  have orderly : ∀ operation ∈ operations, operation.IsOrderly := by
    simp [operations, Operation.IsOrderly]
  obtain ⟨hcommands, hdraws⟩ :=
    @frame_discipline { pacer := some { budget := 10 } } reach rfl operations orderly
  obtain ⟨pacer, outcomes, after, hpacer, hdisciplined⟩ :=
    hcommands (operations.take 4) .runFrame [] rfl
  have disciplined :
      Disciplined now pacer .runFrame outcomes after (now.perform (.pace .runFrame)) :=
    hdisciplined
  have hafter : (now.perform (.pace .runFrame)).session.pacer.map
      (fun pacer => (pacer.cycles, pacer.fault)) =
        some (2, some { kind := .illegalReturn }) := by decide +kernel
  rw [disciplined.pacer_eq, Option.map_some, Option.some.injEq, Prod.mk.injEq] at hafter
  have hhead : (allEvents operations { pacer := some { budget := 10 } }).head? =
      some (.ran .drew (some (.drew 0 0 0))) := by decide +kernel
  obtain ⟨others, hothers⟩ := List.head?_eq_some_iff.mp hhead
  obtain ⟨picture, rest, rfl⟩ := hdraws [] _ others hothers
  exact ⟨⟨pacer, outcomes, after, hpacer, disciplined, hafter⟩, _, picture, rest, hothers⟩

end Session

end ChipEight
