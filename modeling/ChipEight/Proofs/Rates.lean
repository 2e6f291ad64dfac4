import ChipEight.Proofs.WindowRuns
import Mathlib.Algebra.GroupWithZero.Nat

/-!
# The rates

A window counts its drawings, and its pacer counts the executed cycles.  From time to time both
counts are taken for the rates and begin anew.  Nothing is lost by that, however the events of a run
follow one another.

* `Span.SecondApart`, `Span.isFullSecond_since_iff` — rounding does not matter to whether a second
  has gone by.
* `Window.Taking`, `Window.takings` — the counts that are taken in a run, and when.
* `Window.takings_cycles`, `Window.takings_drawings`, `Window.pairwise_takings` — what each event
  does to the counts, and so what a run does.
* **`Window.Tallies`, `Window.tallies_of_play`** — the accounts of any run.
-/

namespace ChipEight

/-! ## A second on the clock -/

namespace Precision

/-- **A number is kept below four just if it is below four.** -/
lemma four_le_keep_iff (n : Int) : 4 ≤ keep n ↔ 4 ≤ n := by
  by_cases hsmall : n.natAbs ≤ 1 <<< 53
  · rw [keep_small hsmall]
  cases n with
  | negSucc n =>
      simp only [keep]
      omega
  | ofNat n =>
      have hlarge : 1 <<< 53 < n := by simpa using hsmall
      -- the unit is no larger than the number, so half of the number is kept at least
      have hunit : 1 <<< (n.log2 - 52) ≤ n := by
        rw [Nat.one_shiftLeft]
        exact Nat.le_trans (Nat.pow_le_pow_right (by decide) (Nat.sub_le _ _))
          (Nat.log2_self_le (by omega))
      have hpos : 0 < 1 <<< (n.log2 - 52) := by
        rw [Nat.one_shiftLeft]
        exact Nat.two_pow_pos _
      have hnear := (roundDiv_near n hpos).2
      have hkeep : keepSize n = roundDiv n (1 <<< (n.log2 - 52)) * 1 <<< (n.log2 - 52) :=
        if_neg (by omega)
      rw [Nat.mul_comm (1 <<< _), ← hkeep] at hnear
      change 4 ≤ (keepSize n : Int) ↔ 4 ≤ (n : Int)
      omega

end Precision

namespace Span

/-- **At least a second lies between an earlier time and a later one.** -/
def SecondApart : Span → Span → Prop
  | .quarters earlier, .quarters later => earlier + second ≤ later
  | .quarters _, .endless | .endlessBack, .quarters _ | .endlessBack, .endless => True
  | _, .endlessBack | .endless, _ => False

lemma SecondApart.trans {first middle last : Span} (h : first.SecondApart middle)
    (h' : middle.SecondApart last) : first.SecondApart last := by
  cases first <;> cases middle <;> cases last <;> simp_all [SecondApart]
  omega

/-- Rounding leaves a second a second. -/
lemma isFullSecond_ofQuarters (count : Int) :
    (ofQuarters count).isFullSecond = true ↔ second ≤ count := by
  have hkeep := Precision.four_le_keep_iff count
  have hlimit : 4 ≤ limit := by decide
  simp only [ofQuarters, second] at *
  split
  · simp only [isFullSecond, true_iff]
    omega
  · split
    · simp only [isFullSecond, Bool.false_eq_true, false_iff]
      omega
    · simp only [isFullSecond, decide_eq_true_eq]
      omega

/-- **The clock tells exactly when a second has gone by.** -/
theorem isFullSecond_since_iff (now before : Span) :
    (now.since before).any isFullSecond = true ↔ before.SecondApart now := by
  cases now <;> cases before
  case quarters.quarters now before =>
    simp only [since, Option.any_some, isFullSecond_ofQuarters, SecondApart]
    omega
  all_goals simp [since, isFullSecond, SecondApart]

end Span

namespace Window

variable {window : Window} {event : Event} {command : Pacer.Command} {key : String}

/-! ## Taking the rates -/

/-- Whether it is time for the rates. -/
def isDue (window : Window) : Bool :=
  (window.clock.since window.ratesTaken).any Span.isFullSecond

/-- The window after a wait, before the rates are taken. -/
def waited (window : Window) (quarters : Int) : Window :=
  { window with clock := window.clock.advance quarters }

/-- **It is time for the rates when a second has gone by since the last time.** -/
lemma isDue_waited_iff (quarters : Int) : (window.waited quarters).isDue = true ↔
    window.ratesTaken.SecondApart (window.clock.advance quarters) :=
  Span.isFullSecond_since_iff _ _

/-- Unless it is time for them, nothing happens. -/
lemma takeRates_of_not_isDue (h : window.isDue = false) : window.takeRates = window := by
  simp only [isDue] at h
  simp only [takeRates]
  cases hsince : window.clock.since window.ratesTaken with
  | none => rfl
  | some elapsed =>
      rw [hsince, Option.any_some] at h
      simp only [h, Bool.false_eq_true, if_false]

/-- If it is, the count of cycles is shown, and both counts begin anew. -/
lemma takeRates_of_isDue (h : window.isDue = true) :
    ∃ drawingsText, window.takeRates =
      { window with
        drawingsText
        cyclesText := "Cycles/s: " ++ Numeral.decimal window.paced.pacer.cycles
        drawings := 0
        paced := { window.paced with pacer := { window.paced.pacer with cycles := 0 } }
        ratesTaken := window.clock } := by
  simp only [isDue] at h
  simp only [takeRates]
  cases hsince : window.clock.since window.ratesTaken with
  | none =>
      rw [hsince] at h
      cases h
  | some elapsed =>
      rw [hsince, Option.any_some] at h
      simp only [h, if_true]
      exact ⟨_, rfl⟩

/-- What the rates were taken from. -/
structure Taking where
  time : Span
  cycles : Nat
  drawings : Nat
  deriving DecidableEq

/-- The counts that are taken on an event. -/
def taking? (window : Window) : Event → Option Taking
  | .wait quarters =>
    if (window.waited quarters).isDue then
      some {
        time := window.clock.advance quarters
        cycles := window.paced.pacer.cycles
        drawings := window.drawings }
    else none
  | _ => none

/-- **The counts that are taken in a run,** in order. -/
def takings : List Event → Window → List Taking
  | [], _ => []
  | event :: rest, window =>
    (window.taking? event).toList ++ takings rest (window.handle event).1

/-! ## What an event does to the counts -/

/-- How many of the cycles that are attempted on events are executed. -/
def executions (window : Window) (events : List Event) : Nat :=
  (window.cycles events).countP fun console => (console.step window.setup).isExecuted

lemma executions_cons (event : Event) (events : List Event) (window : Window) :
    window.executions (event :: events) =
      window.executions [event] + (window.handle event).1.executions events := by
  rw [executions, ← List.singleton_append, cycles_append, List.countP_append, after_cons, after_nil,
    executions, executions, (handle_fixed event window).1]

/-- **What an event does to the counts,** and to when they were taken. -/
structure Counts (window : Window) (event : Event) (after : Window) : Prop where
  cycles_eq : ((window.taking? event).toList.map Taking.cycles).sum + after.paced.pacer.cycles =
    window.paced.pacer.cycles + window.executions [event]
  drawings_eq : ((window.taking? event).toList.map Taking.drawings).sum + after.drawings =
    window.drawings + [event].count .draw
  ratesTaken_eq : after.ratesTaken = ((window.taking? event).map Taking.time).getD window.ratesTaken

/-- An event on which no counts are taken. -/
lemma Counts.of_kept {after : Window} (htaking : window.taking? event = none)
    (hcycles : after.paced.pacer.cycles = window.paced.pacer.cycles + window.executions [event])
    (hdrawings : after.drawings = window.drawings + [event].count .draw)
    (hratesTaken : after.ratesTaken = window.ratesTaken) : Counts window event after where
  cycles_eq := by
    rw [htaking, ← hcycles]
    exact Nat.zero_add _
  drawings_eq := by
    rw [htaking, ← hdrawings]
    exact Nat.zero_add _
  ratesTaken_eq := by
    rw [htaking, hratesTaken]
    rfl

/-- Nothing is executed on an event that is no command. -/
lemma executions_of_no_command (h : event.command? = none) (window : Window) :
    window.executions [event] = 0 := by
  rw [executions, cycles_of_no_command h, List.countP_nil]

/-- No event makes the pacer count anew. -/
lemma command?_ne_resetCount (event : Event) : event.command? ≠ some .resetCount := by
  cases event with
  | press key =>
      simp only [Event.command?]
      split_ifs <;> simp
  | tick | release | wait | draw => simp [Event.command?]

/-- The pacer counts what is executed on a command. -/
lemma cycles_pace (wf : window.paced.console.WellFormed) (h : event.command? = some command) :
    (window.pace command).1.paced.pacer.cycles =
      window.paced.pacer.cycles + window.executions [event] := by
  by_cases runs : command = .runFrame ∨ command = .stepOnce
  · obtain ⟨-, hafter⟩ := handle_run wf h runs
    rw [← handle_of_command h, hafter]
    simp only [foldl_receive_paced, Pacer.cycles_foldl_settle, List.countP_map]
    rfl
  · rw [pace_paced, executions, cycles_of_idle_command h runs]
    cases command
    case runFrame | stepOnce => simp at runs
    case togglePause =>
      simp only [Paced.perform]
      split <;> rfl
    case resetCount => exact absurd h (command?_ne_resetCount event)
    all_goals rfl

/-- A command leaves alone all counts but that of the pacer. -/
lemma counts_of_command (wf : window.paced.console.WellFormed)
    (h : event.command? = some command) : Counts window event (window.handle event).1 := by
  obtain ⟨_, _, _, hreceive⟩ :=
    foldl_receive (Paced.perform window.setup command window.paced).2
      { window with paced := (Paced.perform window.setup command window.paced).1 }
  have hdraw : event ≠ .draw := by
    rintro rfl
    cases h
  rw [handle_of_command h]
  refine .of_kept ?_ (cycles_pace wf h) ?_ ?_
  · cases event with
    | wait quarters => cases h
    | press | release | tick | draw => rfl
  · rw [List.count_singleton, if_neg (by simpa using hdraw), pace, hreceive]
    rfl
  · rw [pace, hreceive]

/-- A key that is no command concerns the keypad, the journal or the window itself. -/
lemma handle_press (h : (Event.press key).command? = none) (window : Window) :
    ∃ console journal closings, (window.handle (.press key)).1 =
      { window with paced := { window.paced with console }, journal, closings } := by
  simp only [handle, press]
  simp only [Event.command?] at h
  split_ifs at h ⊢
  · exact ⟨_, _, _, rfl⟩
  · exact ⟨_, _, _, rfl⟩
  · cases window.keys.find? key <;> exact ⟨_, _, _, rfl⟩

/-- A key that goes up concerns the keypad. -/
lemma handle_release (key : String) (window : Window) :
    ∃ console, (window.handle (.release key)).1 =
      { window with paced := { window.paced with console } } := by
  simp only [handle, release]
  cases window.keys.find? key <;> exact ⟨_, rfl⟩

/-- **Every event keeps count.** -/
theorem counts_handle (wf : window.paced.console.WellFormed) (event : Event) :
    Counts window event (window.handle event).1 := by
  cases hcommand : event.command? with
  | some command => exact counts_of_command wf hcommand
  | none =>
      have hnone := executions_of_no_command hcommand window
      cases event with
      | press key =>
          obtain ⟨console, journal, closings, hpress⟩ := handle_press hcommand window
          rw [hpress]
          exact .of_kept rfl (by rw [hnone]; rfl) rfl rfl
      | release key =>
          obtain ⟨console, hrelease⟩ := handle_release key window
          rw [hrelease]
          exact .of_kept rfl (by rw [hnone]; rfl) rfl rfl
      | tick => cases hcommand
      | wait quarters =>
          cases hdue : (window.waited quarters).isDue with
          | false =>
              have hkept : (window.handle (.wait quarters)).1 = window.waited quarters :=
                takeRates_of_not_isDue hdue
              rw [hkept]
              exact .of_kept (by simp only [taking?, hdue, Bool.false_eq_true, if_false])
                (by rw [hnone]; rfl) rfl rfl
          | true =>
              obtain ⟨drawingsText, htaken⟩ := takeRates_of_isDue hdue
              have htaking : window.taking? (.wait quarters) = some {
                  time := window.clock.advance quarters
                  cycles := window.paced.pacer.cycles
                  drawings := window.drawings } := if_pos hdue
              rw [show (window.handle (.wait quarters)).1 = _ from htaken]
              exact {
                cycles_eq := by rw [htaking, hnone]; rfl
                drawings_eq := by rw [htaking]; rfl
                ratesTaken_eq := by rw [htaking]; rfl }
      | draw => exact .of_kept rfl (by rw [hnone]; rfl) rfl rfl

/-- Counts are taken only when a second has gone by. -/
lemma secondApart_of_taking? {taking : Taking} (h : window.taking? event = some taking) :
    window.ratesTaken.SecondApart taking.time := by
  cases event with
  | wait quarters =>
      rw [taking?, Option.ite_none_right_eq_some, Option.some.injEq] at h
      obtain ⟨hdue, rfl⟩ := h
      exact (isDue_waited_iff quarters).mp hdue
  | press | release | tick | draw => cases h

/-! ## Whole runs -/

/-- **No cycle is lost:** those that were taken and those still counted are all that were
executed. -/
theorem takings_cycles (wf : window.paced.console.WellFormed) (events : List Event) :
    ((takings events window).map Taking.cycles).sum + (window.after events).paced.pacer.cycles =
      window.paced.pacer.cycles + window.executions events := by
  induction events generalizing window with
  | nil => exact Nat.zero_add _
  | cons event rest ih =>
      have hone := (counts_handle wf event).cycles_eq
      have hrest := ih (wellFormed_after wf [event])
      rw [after_cons, after_nil] at hrest
      rw [takings, List.map_append, List.sum_append_nat, after_cons, executions_cons]
      omega

/-- **No drawing is lost.** -/
theorem takings_drawings (wf : window.paced.console.WellFormed) (events : List Event) :
    ((takings events window).map Taking.drawings).sum + (window.after events).drawings =
      window.drawings + events.count .draw := by
  induction events generalizing window with
  | nil => exact Nat.zero_add _
  | cons event rest ih =>
      have hone := (counts_handle wf event).drawings_eq
      have hrest := ih (wellFormed_after wf [event])
      rw [after_cons, after_nil] at hrest
      rw [takings, List.map_append, List.sum_append_nat, after_cons, ← List.singleton_append,
        List.count_append]
      omega

/-- The rates were taken last when they were taken last. -/
lemma ratesTaken_after (wf : window.paced.console.WellFormed) (events : List Event) :
    (window.after events).ratesTaken =
      ((takings events window).map Taking.time).getLastD window.ratesTaken := by
  induction events generalizing window with
  | nil => rfl
  | cons event rest ih =>
      have hrest := ih (wellFormed_after wf [event])
      rw [after_cons, after_nil, (counts_handle wf event).ratesTaken_eq] at hrest
      rw [after_cons, hrest, takings, List.map_append]
      cases window.taking? event with
      | none => rfl
      | some taking =>
          rw [Option.toList_some, List.map_singleton, List.singleton_append, List.getLastD_cons]
          rfl

/-- **Any two times at which counts are taken are a second apart.** -/
theorem pairwise_takings (wf : window.paced.console.WellFormed) (events : List Event) :
    (window.ratesTaken :: (takings events window).map Taking.time).Pairwise Span.SecondApart := by
  induction events generalizing window with
  | nil => exact List.pairwise_singleton _ _
  | cons event rest ih =>
      have hrest := ih (wellFormed_after wf [event])
      rw [after_cons, after_nil, (counts_handle wf event).ratesTaken_eq] at hrest
      rw [takings, List.map_append]
      cases htaking : window.taking? event with
      | none =>
          rw [htaking] at hrest
          exact hrest
      | some taking =>
          rw [htaking] at hrest
          have hfirst := secondApart_of_taking? htaking
          refine List.pairwise_cons.mpr ⟨?_, hrest⟩
          intro time hmem
          rcases List.mem_cons.mp hmem with rfl | hlater
          · exact hfirst
          · exact hfirst.trans (List.rel_of_pairwise_cons hrest hlater)

/-- **The accounts of a run.**  Time goes by in whole quarters of a second, as it does in the events
of a window; the counts do not depend on that. -/
structure Tallies (window : Window) (history : List Event) (now : Window) : Prop where
  /-- The counts of cycles that were taken and the one that runs make up all that were executed, -/
  cycles_eq : ((takings history window).map Taking.cycles).sum + now.paced.pacer.cycles =
    window.executions history
  /-- and the counts of drawings all drawings. -/
  drawings_eq : ((takings history window).map Taking.drawings).sum + now.drawings =
    history.count .draw
  /-- The counts were taken a second apart, and the first of them a second after the start. -/
  apart : (.quarters 0 :: (takings history window).map Taking.time).Pairwise Span.SecondApart
  /-- Before the next second has gone by, nothing happens but that it goes by. -/
  early : ∀ quarters,
    ¬ (((takings history window).map Taking.time).getLastD (.quarters 0)).SecondApart
      (now.clock.advance quarters) →
    now.handle (.wait quarters) = ({ now with clock := now.clock.advance quarters }, [])
  /-- Once it has, the counts begin anew, and the label shows the one of cycles. -/
  due : ∀ quarters,
    (((takings history window).map Taking.time).getLastD (.quarters 0)).SecondApart
      (now.clock.advance quarters) →
    (now.handle (.wait quarters)).1.cyclesText =
        "Cycles/s: " ++ Numeral.decimal now.paced.pacer.cycles ∧
      (now.handle (.wait quarters)).1.paced.pacer.cycles = 0 ∧
      (now.handle (.wait quarters)).1.drawings = 0

/-- **No cycle and no drawing is lost or counted twice.**  Let any events happen to a window that
has just opened, with any program, dialect and budget.  The clock is read wherever the events leave
it, and they move it by whole quarters of a second. -/
theorem tallies_of_play (new : window.IsNew) (events : List Event) :
    Tallies window (played events window) (play events window).1 := by
  have wf := new.wellFormed
  obtain ⟨hcycles, hdrawings, hratesTaken⟩ : window.paced.pacer.cycles = 0 ∧ window.drawings = 0 ∧
      window.ratesTaken = .quarters 0 := by
    obtain ⟨options, setup, journal, program, machine, -, rfl⟩ := new
    exact ⟨rfl, rfl, rfl⟩
  rw [play_eq]
  have hlast := ratesTaken_after wf (played events window)
  rw [hratesTaken] at hlast
  exact {
    cycles_eq := by rw [takings_cycles wf, hcycles, Nat.zero_add]
    drawings_eq := by rw [takings_drawings wf, hdrawings, Nat.zero_add]
    apart := by
      rw [← hratesTaken]
      exact pairwise_takings wf _
    early := by
      intro quarters hearly
      rw [← hlast] at hearly
      have hdue := Bool.eq_false_iff.mpr ((isDue_waited_iff quarters).not.mpr hearly)
      exact congrArg (·, []) (takeRates_of_not_isDue hdue)
    due := by
      intro quarters hlate
      rw [← hlast] at hlate
      obtain ⟨drawingsText, htaken⟩ := takeRates_of_isDue ((isDue_waited_iff quarters).mpr hlate)
      rw [show (handle (.wait quarters) _).1 = _ from htaken]
      exact ⟨rfl, rfl, rfl⟩ }

/-- A program that stays where it is.  A second is waited for in two parts, with a frame of three
cycles and a drawing before each; then there is one more frame. -/
theorem tallies_of_play_two_frames :
    let machine := (Machine.powerOn.load [0x12, 0x00]).getD Machine.powerOn
    let window := opened { program := "stay.ch8", cycles := 3 } {} machine {}
    let events : List Event := [.tick, .draw, .wait 3, .tick, .draw, .wait 1, .tick]
    let now := (play events window).1
    window.IsNew ∧ Tallies window (played events window) now ∧
      takings (played events window) window =
        [{ time := .quarters 4, cycles := 6, drawings := 2 }] ∧
      now.paced.pacer.cycles = 3 := by
  intro machine window events now
  have new : window.IsNew :=
    ⟨{ program := "stay.ch8", cycles := 3 }, {}, {}, [0x12, 0x00], machine, rfl, rfl⟩
  have counts : takings (played events window) window =
      [{ time := .quarters 4, cycles := 6, drawings := 2 }] ∧ now.paced.pacer.cycles = 3 := by
    decide +kernel
  exact ⟨new, tallies_of_play new events, counts⟩

end Window

end ChipEight
