import ChipEight.Proofs.Pacing

/-!
# Tracing only observes

The switch of the trace may be turned at any time, and nothing depends on it but the journal.  What
an operation offers to the journal is the same wherever the switch stands; the journal decides what
it keeps.

* `Offer`, `Offer.records` — what is offered to a journal, and what it keeps of that.
* `Session.exists_offers` — an operation under any journal.
* `Session.untraced`, `Session.Done.untraced` — what is left without the journal and its traces.
* `Journal.KeepsTraces` — no trace entry is lost while the switch is on.
* **`Session.OnlyObserved`, `Session.onlyObserved`** — the switch turned at will among any
  operations, compared with the same operations alone.
-/

namespace ChipEight

/-! ## What is offered to a journal -/

/-- What is offered to a journal: an entry of the trace, or the report of a fault. -/
inductive Offer where
  | traced (entry : Trace)
  | reported (text : String)

/-- A record has the weight with which it was noted. -/
lemma Journal.level_of_mem_note {journal : Journal} {level : Level} {text : String}
    {record : Record} (h : record ∈ journal.note level text) : record.level = level := by
  rw [note, List.mem_ite_nil_right, List.mem_singleton] at h
  rw [h.2]

namespace Offer

/-- What a journal keeps of it. -/
def records (journal : Journal) : Offer → List Record
  | .traced entry => journal.trace entry
  | .reported text => journal.note .error text

/-- What is offered by an event. -/
def ofEvent : Pacer.Event → List Offer
  | .ran _ trace => trace.toList.map .traced
  | .faulted _ report => [.reported report]
  | .stuck _ | .presented _ => []

/-- The records of entries of the trace. -/
lemma flatMap_records_entries (journal : Journal) (trace : Option Trace) :
    (trace.toList.map Offer.traced).flatMap (records journal) =
      (trace.map journal.trace).getD [] := by
  cases trace <;> simp [records]

lemma flatMap_records_ofEvent (journal : Journal) (event : Pacer.Event) :
    (ofEvent event).flatMap (records journal) = event.records journal := by
  cases event with
  | ran flow trace => exact flatMap_records_entries journal trace
  | faulted fault report => exact List.append_nil _
  | stuck misfit => rfl
  | presented picture => rfl

/-- **Every journal keeps the same reports of faults.** -/
lemma filter_error_records (journal other : Journal) (offers : List Offer) :
    (offers.flatMap (records journal)).filter (·.level = .error) =
      (offers.flatMap (records other)).filter (·.level = .error) := by
  induction offers with
  | nil => rfl
  | cons offer rest ih =>
      rw [List.flatMap_cons, List.flatMap_cons, List.filter_append, List.filter_append, ih]
      cases offer with
      | traced entry => simp only [records, Journal.filter_error_trace]
      | reported text => simp only [records, Journal.note_error]

/-- **A journal keeps entries of the trace only while the switch is on.** -/
lemma tracing_of_mem_records {journal : Journal} {offers : List Offer} {record : Record}
    (h : record ∈ offers.flatMap (records journal)) (hlevel : record.level = .debug) :
    journal.tracing = true := by
  obtain ⟨offer, -, hrecord⟩ := List.mem_flatMap.mp h
  cases offer with
  | traced entry =>
      by_contra hoff
      simp [records, Journal.trace, hoff] at hrecord
  | reported text =>
      have herror := Journal.level_of_mem_note hrecord
      rw [hlevel] at herror
      cases herror

end Offer

namespace Session

variable {operation : Operation} {session : Session}

/-! ## Operations under any journal -/

/-- Whether an operation turns the switch of the trace. -/
def Operation.isTracing : Operation → Bool
  | .setTracing _ | .toggleTracing => true
  | _ => false

/-- The session with its journal replaced. -/
def withJournal (session : Session) (journal : Journal) : Session :=
  { session with journal }

/-- What becomes of an operation under another journal, of which offers are made to it. -/
def Done.under (done : Done) (offers : List Offer) (journal : Journal) : Done where
  reply := done.reply
  records := offers.flatMap (Offer.records journal)
  session := done.session.withJournal journal

/-- A choice that does not ask for the journal. -/
lemma under_ite {p : Prop} [Decidable p] {journal : Journal} {first first' second second' : Done}
    (hfirst : first' = first.under [] journal) (hsecond : second' = second.under [] journal) :
    (if p then first' else second') = (if p then first else second).under [] journal := by
  split <;> assumption

/-- Cycles offer the same to every journal. -/
lemma exists_offers_cycles (setup : Setup) (count : Nat) (console : Console) :
    ∃ offers : List Offer, ∃ run : Run, ∀ journal, cycles setup journal count console =
      { run with records := offers.flatMap (Offer.records journal) } := by
  induction count generalizing console with
  | zero => exact ⟨[], { console }, fun _ => rfl⟩
  | succ count ih =>
      cases hstep : console.step setup with
      | ran flow trace left =>
          obtain ⟨offers, run, hrest⟩ := ih left
          refine ⟨trace.toList.map .traced ++ offers, { run with flows := flow :: run.flows }, ?_⟩
          intro journal
          simp only [cycles, hstep, hrest, List.flatMap_append, Offer.flatMap_records_entries]
      | faulted fault left =>
          refine ⟨[], { refusal := some (.fault fault), console := left }, fun journal => ?_⟩
          simp only [cycles, hstep, List.flatMap_nil]
      | stuck misfit left =>
          refine ⟨[], { refusal := some (.misfit misfit), console := left }, fun journal => ?_⟩
          simp only [cycles, hstep, List.flatMap_nil]

/-- **Every operation but those on the switch is the same under every journal,** except for what the
journal keeps of it. -/
theorem exists_offers (h : operation.isTracing = false) (session : Session) :
    ∃ offers : List Offer, ∀ journal, (session.withJournal journal).perform operation =
      (session.perform operation).under offers journal := by
  cases operation
  case setTracing | toggleTracing => cases h
  case step =>
    cases hstep : session.console.step session.setup with
    | ran flow trace left =>
        refine ⟨trace.toList.map .traced, fun journal => ?_⟩
        simp only [perform, step, withJournal, hstep, Done.under, Offer.flatMap_records_entries]
    | faulted fault left =>
        refine ⟨[], fun journal => ?_⟩
        simp only [perform, step, withJournal, hstep, Done.under, List.flatMap_nil]
    | stuck misfit left =>
        refine ⟨[], fun journal => ?_⟩
        simp only [perform, step, withJournal, hstep, Done.under, List.flatMap_nil]
  case run count =>
    obtain ⟨offers, run, hrun⟩ := exists_offers_cycles session.setup count session.console
    refine ⟨offers, fun journal => ?_⟩
    simp only [perform, Session.run, withJournal, hrun, Done.under]
  case pace command =>
    cases hpacer : session.pacer with
    | none =>
        refine ⟨[], fun journal => ?_⟩
        simp only [perform, pace, withJournal, hpacer, look, Done.under, List.flatMap_nil]
    | some pacer =>
        refine ⟨(Paced.perform session.setup command
          { console := session.console, pacer }).2.flatMap Offer.ofEvent, fun journal => ?_⟩
        simp only [perform, pace, withJournal, hpacer, Done.under, List.flatMap_assoc,
          Offer.flatMap_records_ofEvent]
  case load program =>
    cases hload : session.console.machine.load program with
    | none =>
        refine ⟨[], fun journal => ?_⟩
        simp only [perform, withJournal, hload, Done.under, List.flatMap_nil]
    | some machine =>
        refine ⟨[.traced (.loaded program.length)], fun journal => ?_⟩
        simp only [perform, withJournal, withMachine, hload, Done.under, Offer.records,
          List.flatMap_singleton]
  case fetch =>
    refine ⟨[], fun journal => ?_⟩
    have hword : (session.withJournal journal).console.machine.word? =
      session.console.machine.word? := rfl
    simp only [perform, hword]
    cases session.console.machine.word? with
    | some word => rfl
    | none => exact under_ite rfl rfl
  case report | panel | instruction =>
    exact ⟨[], fun journal => under_ite rfl rfl⟩
  case press key | release key | isDown key =>
    refine ⟨[], fun journal => ?_⟩
    simp only [perform, withJournal, onKey]
    cases Numbering.place? 16 key <;> rfl
  all_goals exact ⟨[], fun journal => rfl⟩

/-- Such an operation leaves the switch where it is. -/
lemma journal_perform (h : operation.isTracing = false) (session : Session) :
    (session.perform operation).session.journal = session.journal := by
  obtain ⟨offers, hperform⟩ := exists_offers h session
  exact congrArg (fun done => done.session.journal) (hperform session.journal)

/-! ## Without the trace -/

/-- A session without its journal. -/
def untraced (session : Session) : Session :=
  session.withJournal {}

/-- What became of an operation, with nothing on record but the reports of faults. -/
def Done.untraced (done : Done) : Done where
  reply := done.reply
  records := done.records.filter (·.level = .error)
  session := done.session.untraced

lemma Done.untraced_under (done : Done) (offers : List Offer) (journal other : Journal) :
    (done.under offers journal).untraced = (done.under offers other).untraced := by
  simp only [Done.untraced, Done.under, Offer.filter_error_records journal other]
  rfl

/-- **Without the trace an operation is the same in sessions that are.** -/
lemma untraced_perform (h : operation.isTracing = false) {other : Session}
    (same : session.untraced = other.untraced) :
    (session.perform operation).untraced = (other.perform operation).untraced := by
  have hplain (session : Session) :
      (session.perform operation).untraced = (session.untraced.perform operation).untraced := by
    obtain ⟨offers, hperform⟩ := exists_offers h session
    calc (session.perform operation).untraced
        = ((session.perform operation).under offers session.journal).untraced :=
          congrArg Done.untraced (hperform session.journal)
      _ = ((session.perform operation).under offers {}).untraced := Done.untraced_under _ _ _ _
      _ = (session.untraced.perform operation).untraced := by rw [untraced, hperform]
  rw [hplain session, same, ← hplain other]

/-- To turn the switch changes nothing else. -/
lemma untraced_perform_switch (h : operation.isTracing = true) (session : Session) :
    (session.perform operation).session.untraced = session.untraced := by
  cases operation
  case setTracing | toggleTracing => rfl
  all_goals cases h

/-- **Without the trace a run is that of the operations that do not turn the switch,** in a session
that is the same. -/
theorem untraced_performAll (operations : List Operation) {session other : Session}
    (same : session.untraced = other.untraced) :
    let plain := performAll (operations.filter fun operation => !operation.isTracing) other
    ((operations.zip (performAll operations session).1).filter fun done =>
        !done.1.isTracing).map (fun done => done.2.untraced) = plain.1.map Done.untraced ∧
      (performAll operations session).2.untraced = plain.2.untraced := by
  induction operations generalizing session other with
  | nil => exact ⟨rfl, same⟩
  | cons operation rest ih =>
      cases h : operation.isTracing with
      | true =>
          have hrest := ih ((untraced_perform_switch h session).trans same)
          simpa only [performAll, List.zip_cons_cons, List.filter_cons, h, Bool.not_true,
            Bool.false_eq_true, if_false] using hrest
      | false =>
          have hdone := untraced_perform h same
          obtain ⟨hdones, hleft⟩ := ih (congrArg Done.session hdone)
          simp only [performAll, List.zip_cons_cons, List.filter_cons, h, Bool.not_false, if_true,
            List.map_cons]
          exact ⟨by rw [hdone, hdones], hleft⟩

/-! ## The switch and the threshold -/

end Session

/-- **Nothing is lost of the trace:** while the switch is on, every record is kept. -/
def Journal.KeepsTraces (journal : Journal) : Prop :=
  journal.tracing = true → journal.threshold = .debug

lemma Journal.keepsTraces_setTracing (journal : Journal) (enabled : Bool) :
    (journal.setTracing enabled).KeepsTraces := by
  intro h
  exact if_pos h

/-- A threshold at the bottom stays there. -/
lemma Journal.threshold_setTracing {journal : Journal} (h : journal.threshold = .debug)
    (enabled : Bool) : (journal.setTracing enabled).threshold = .debug := by
  rw [setTracing, h, ite_self]

/-- **The record of a turn of the switch is always kept.** -/
lemma Journal.toggleTracing_snd {journal : Journal} (keeps : journal.KeepsTraces) :
    journal.toggleTracing.2 =
      [{ level := .info, text := "logsOn: " ++ if journal.tracing then "False" else "True" }] := by
  cases h : journal.tracing with
  | true => simp [toggleTracing, setTracing, note, h, keeps h, Level.rank]
  | false => simp [toggleTracing, setTracing, note, h, Level.rank]

namespace Session

variable {operation : Operation} {session : Session}

lemma keepsTraces_perform (operation : Operation) (keeps : session.journal.KeepsTraces) :
    (session.perform operation).session.journal.KeepsTraces := by
  cases h : operation.isTracing with
  | false => rwa [journal_perform h]
  | true =>
      cases operation
      case setTracing | toggleTracing => exact session.journal.keepsTraces_setTracing _
      all_goals cases h

lemma threshold_perform (operation : Operation) (hlow : session.journal.threshold = .debug) :
    (session.perform operation).session.journal.threshold = .debug := by
  cases h : operation.isTracing with
  | false => rwa [journal_perform h]
  | true =>
      cases operation
      case setTracing | toggleTracing => exact Journal.threshold_setTracing hlow _
      all_goals cases h

lemma keepsTraces_performAll (operations : List Operation) (keeps : session.journal.KeepsTraces) :
    (performAll operations session).2.journal.KeepsTraces := by
  induction operations generalizing session with
  | nil => exact keeps
  | cons operation rest ih => exact ih (keepsTraces_perform operation keeps)

lemma threshold_performAll (operations : List Operation)
    (hlow : session.journal.threshold = .debug) :
    (performAll operations session).2.journal.threshold = .debug := by
  induction operations generalizing session with
  | nil => exact hlow
  | cons operation rest ih => exact ih (threshold_perform operation hlow)

/-- Entries of the trace are kept only while the switch is on. -/
lemma tracing_of_debug {record : Record} (h : record ∈ (session.perform operation).records)
    (hlevel : record.level = .debug) : session.journal.tracing = true := by
  cases htracing : operation.isTracing with
  | false =>
      obtain ⟨offers, hperform⟩ := exists_offers htracing session
      have hrecords := congrArg Done.records (hperform session.journal)
      exact Offer.tracing_of_mem_records (hrecords ▸ h) hlevel
  | true =>
      cases operation
      case setTracing => cases h
      case toggleTracing =>
        have hinfo := Journal.level_of_mem_note h
        rw [hlevel] at hinfo
        cases hinfo
      all_goals cases htracing

/-! ## The switch turned at will -/

/-- **Tracing only observes:** the switch was turned at will among operations, and of all that
happened only the journal can tell. -/
structure OnlyObserved (operations : List Operation) (session : Session) : Prop where
  /-- Every other operation has ended as it does if the switch is not touched, with the same reply,
  the same reports of faults and the same session after it. -/
  done_eq :
    ((operations.zip (performAll operations session).1).filter fun done =>
      !done.1.isTracing).map (fun done => done.2.untraced) =
    (performAll (operations.filter fun operation => !operation.isTracing) session).1.map
      Done.untraced
  /-- All of them together have ended so. -/
  left_eq : (performAll operations session).2.untraced =
    (performAll (operations.filter fun operation => !operation.isTracing) session).2.untraced
  /-- Whatever comes next is traced only if the switch is on now. -/
  tracing_of_debug : ∀ operation,
    ∀ record ∈ ((performAll operations session).2.perform operation).records,
      record.level = .debug → (performAll operations session).2.journal.tracing = true
  /-- The next turn of the switch leaves one record. -/
  toggled : ((performAll operations session).2.perform .toggleTracing).records =
    [{ level := .info
       text := "logsOn: " ++
        if (performAll operations session).2.journal.tracing then "False" else "True" }]
  /-- If the switch is on now, everything is kept from now on. -/
  threshold_eq : (performAll operations session).2.journal.tracing = true →
    ∀ more, (performAll more (performAll operations session).2).2.journal.threshold = .debug

/-- **The switch may be turned at will.** -/
theorem onlyObserved (operations : List Operation) (keeps : session.journal.KeepsTraces) :
    OnlyObserved operations session where
  done_eq := (untraced_performAll operations rfl).1
  left_eq := (untraced_performAll operations rfl).2
  tracing_of_debug := fun _ _ h hlevel => Session.tracing_of_debug h hlevel
  toggled := Journal.toggleTracing_snd (keepsTraces_performAll operations keeps)
  threshold_eq := by
    intro h more
    exact threshold_performAll more (keepsTraces_performAll operations keeps h)

/-- The switch is turned on, off and on again while a program is loaded, calls a routine and meets a
fault there.  The program is traced but the call is not, and the fault is reported. -/
theorem onlyObserved_call :
    let operations : List Operation :=
      [.toggleTracing, .load [0x22, 0x04, 0x00, 0x00, 0x00, 0x00], .setTracing false,
        .pace .stepOnce, .toggleTracing, .pace .stepOnce]
    let session : Session := { pacer := some {} }
    session.journal.KeepsTraces ∧ OnlyObserved operations session ∧
      ((performAll operations session).1.map fun done => done.records.map (·.level)) =
        [[.info], [.debug], [], [], [.info], [.error]] := by
  intro operations session
  have keeps : session.journal.KeepsTraces := Bool.noConfusion
  exact ⟨keeps, onlyObserved operations keeps, by decide +kernel⟩

end Session

end ChipEight
