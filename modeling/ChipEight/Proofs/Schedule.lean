import ChipEight.Proofs.Pacing

/-!
# Schedules

A pacer decides when cycles are run: how many make up a frame, when there is a pause, which ones are
single steps.  It does not decide what they do.  Cycles that find nothing to do or are refused change
nothing, and the others are counted, so the count alone tells how far a machine has come.

* `Console.advance?` — the console after a number of cycles all of which were executed.
* `Console.left_of_not_executed` — a cycle that was not executed changes nothing.
* `Pacer.Command.IsSchedule` — the commands that only decide when cycles are run.
* `Paced.Advances`, `Paced.advances_perform` — a pacer on such a command takes the console as far as
  it counts.
* **`Session.schedule_irrelevant`** — so does any number of them, and schedules that count the same
  number of cycles end in the same console.
-/

namespace ChipEight

namespace Console

variable {setup : Setup} {console : Console}

/-- **The console after a number of cycles,** each of which was executed: none was refused, and none
found nothing to do. -/
def advance? (setup : Setup) : Nat → Console → Option Console
  | 0, console => some console
  | count + 1, console =>
    if (console.step setup).isExecuted then advance? setup count (console.step setup).left else none

/-- Cycles are executed in one go or in two. -/
lemma advance?_add (first last : Nat) (console : Console) :
    console.advance? setup (first + last) =
      (console.advance? setup first).bind (advance? setup last) := by
  induction first generalizing console with
  | zero => rw [Nat.zero_add, advance?, Option.bind_some]
  | succ first ih =>
      rw [Nat.succ_add, advance?, advance?]
      split
      · exact ih _
      · rfl

/-- **A cycle that was not executed changes nothing.** -/
lemma left_of_not_executed (wf : console.WellFormed)
    (h : (console.step setup).isExecuted = false) : (console.step setup).left = console := by
  have hcycle := cycle_step setup wf
  generalize console.step setup = outcome at hcycle h ⊢
  cases hcycle with
  | idle register waiting silent => rfl
  | answered register digit waiting typed => cases h
  | refused fault running met => rfl
  | executed instruction trace left running fetched sound effect =>
      rw [Outcome.isExecuted_ran_flow] at h
      cases h

end Console

/-- **A command that only decides when cycles are run.**  The other two pass over an instruction and
begin a new count. -/
def Pacer.Command.IsSchedule : Pacer.Command → Prop
  | .skip | .resetCount => False
  | _ => True

namespace Paced

variable {setup : Setup} {paced next last : Paced} {command : Pacer.Command}

/-- **The console has come as far as the pacer has counted.** -/
def Advances (setup : Setup) (paced next : Paced) : Prop :=
  ∃ count, next.pacer.cycles = paced.pacer.cycles + count ∧
    paced.console.advance? setup count = some next.console

lemma Advances.refl (paced : Paced) : Advances setup paced paced := ⟨0, rfl, rfl⟩

lemma Advances.trans (hnext : Advances setup paced next) (hlast : Advances setup next last) :
    Advances setup paced last := by
  obtain ⟨count, hcycles, hconsole⟩ := hnext
  obtain ⟨more, hmore, hfar⟩ := hlast
  refine ⟨count + more, by omega, ?_⟩
  rw [Console.advance?_add, hconsole, Option.bind_some, hfar]

/-- One attempt takes the console one cycle on, which is counted, or leaves both where they are. -/
lemma advances_attempt (wf : paced.console.WellFormed) :
    Advances setup paced (paced.attempt setup) := by
  have hcycles := Pacer.cycles_foldl_settle paced.pacer [paced.console.step setup]
  rw [List.countP_singleton] at hcycles
  cases hexecuted : (paced.console.step setup).isExecuted with
  | true =>
      rw [hexecuted] at hcycles
      exact ⟨1, hcycles, by rw [Console.advance?, hexecuted]; rfl⟩
  | false =>
      rw [hexecuted] at hcycles
      refine ⟨0, hcycles, ?_⟩
      rw [Console.advance?, attempt, Console.left_of_not_executed wf hexecuted]

/-- **A pacer on a schedule takes the console as far as it counts.** -/
theorem advances_perform (wf : paced.console.WellFormed) (schedule : command.IsSchedule) :
    Advances setup paced (perform setup command paced).1 := by
  have hrun : command = .runFrame ∨ command = .stepOnce →
      Advances setup paced (perform setup command paced).1 := fun runs =>
    perform_run_induction (fun _ hnext h => h.trans (advances_attempt hnext)) wf runs (.refl paced)
  cases command
  case runFrame => exact hrun (Or.inl rfl)
  case stepOnce => exact hrun (Or.inr rfl)
  case skip | resetCount => exact schedule.elim
  case togglePause =>
    rw [perform]
    split <;> exact .refl _
  all_goals exact .refl _

end Paced

namespace Session

variable {session : Session} {pacer : Pacer}

/-- **A pacer on a schedule takes the console of a session as far as it counts.** -/
theorem advances_performAll {commands : List Pacer.Command}
    (schedule : ∀ command ∈ commands, command.IsSchedule) (wf : session.console.WellFormed)
    (hpacer : session.pacer = some pacer) :
    let now := (performAll (commands.map .pace) session).2
    ∃ after, now.pacer = some after ∧
      Paced.Advances session.setup { console := session.console, pacer }
        { console := now.console, pacer := after } := by
  induction commands generalizing session pacer with
  | nil => exact ⟨pacer, hpacer, .refl _⟩
  | cons command rest ih =>
      obtain ⟨hconsole, hnext⟩ := perform_pace_paced hpacer command
      have hfirst : Paced.Advances session.setup { console := session.console, pacer } _ :=
        Paced.advances_perform wf (schedule command List.mem_cons_self)
      have orderly : (Operation.pace command).IsOrderly := trivial
      obtain ⟨after, hafter, hrest⟩ :=
        ih (fun other hmem => schedule other (List.mem_cons_of_mem _ hmem))
          (wellFormed_perform orderly wf) hnext
      rw [perform_setup, hconsole] at hrest
      exact ⟨after, hafter, hfirst.trans hrest⟩

/-- **The schedule does not matter.**  Let a session with a pacer be in any state that a host can
bring about.  However its pacer then runs frames of any budget and single cycles, is paused and goes
on, the console ends up where as many cycles take it as were counted, each of them executed.  So two
schedules under which the same number of cycles was counted end in the same console. -/
theorem schedule_irrelevant (reach : Console.Reachable session.setup session.console)
    (hpacer : session.pacer = some pacer) {first second : List Pacer.Command}
    (hfirst : ∀ command ∈ first, command.IsSchedule)
    (hsecond : ∀ command ∈ second, command.IsSchedule) :
    let one := (performAll (first.map .pace) session).2
    let other := (performAll (second.map .pace) session).2
    ∃ onePacer otherPacer, one.pacer = some onePacer ∧ other.pacer = some otherPacer ∧
      (∃ count, onePacer.cycles = pacer.cycles + count ∧
        session.console.advance? session.setup count = some one.console) ∧
      (onePacer.cycles = otherPacer.cycles → one.console = other.console) := by
  intro one other
  have wf := reach.wellFormed
  obtain ⟨onePacer, hone, count, hcount, hconsole⟩ := advances_performAll hfirst wf hpacer
  obtain ⟨otherPacer, hother, second, hsecond, hsame⟩ := advances_performAll hsecond wf hpacer
  refine ⟨onePacer, otherPacer, hone, hother, ⟨count, hcount, hconsole⟩, fun hcycles => ?_⟩
  obtain rfl : count = second := by
    simp only at hcount hsecond
    omega
  exact Option.some.inj (hconsole.symm.trans hsame)

/-- A sprite and then a return from nowhere.  The first schedule has one frame that the sprite ends
and one that is refused; the second one steps once, and its other frames have no budget or fall into a
pause. -/
theorem schedule_irrelevant_sprite :
    let console := ({} : Console).acts {} [.load [0xD0, 0x05, 0x00, 0xEE]]
    let first : List Pacer.Command := [.setBudget 9, .runFrame, .runFrame]
    let second : List Pacer.Command :=
      [.setBudget (-1), .runFrame, .togglePause, .stepOnce, .setBudget 3, .runFrame]
    let one := (performAll (first.map .pace) { console, pacer := some { cycles := 7 } }).2
    let other := (performAll (second.map .pace) { console, pacer := some { cycles := 7 } }).2
    (∀ command ∈ first ++ second, command.IsSchedule) ∧
      one.pacer.map Pacer.cycles = some 8 ∧ other.pacer.map Pacer.cycles = some 8 ∧
      console.advance? {} 1 = some one.console ∧ one.console = other.console := by
  intro console first second one other
  have reach : Console.Reachable {} console := Console.reachable_iff.mpr ⟨_, rfl⟩
  have schedule : ∀ command ∈ first ++ second, command.IsSchedule := by
    simp [first, second, Pacer.Command.IsSchedule]
  obtain ⟨hone, hother⟩ :
      one.pacer.map Pacer.cycles = some 8 ∧ other.pacer.map Pacer.cycles = some 8 := by
    decide +kernel
  obtain ⟨onePacer, otherPacer, hfirst, hsecond, ⟨count, hcount, hconsole⟩, hsame⟩ :=
    @schedule_irrelevant { console, pacer := some { cycles := 7 } } { cycles := 7 } reach rfl
      first second
      (fun command hmem => schedule command (List.mem_append_left second hmem))
      (fun command hmem => schedule command (List.mem_append_right first hmem))
  have honePacer : one.pacer = some onePacer := hfirst
  have hotherPacer : other.pacer = some otherPacer := hsecond
  have height : onePacer.cycles = 8 ∧ otherPacer.cycles = 8 := by
    simpa only [honePacer, hotherPacer, Option.map_some, Option.some.injEq] using
      And.intro hone hother
  obtain rfl : count = 1 := by
    simp only at hcount
    omega
  exact ⟨schedule, hone, hother, hconsole, hsame (height.1.trans height.2.symm)⟩

end Session

end ChipEight
