import ChipEight.Proofs.Calls
import Mathlib.Data.List.Induction

/-!
# Waits for a key

A machine that waits for a key and a host that presses keys take turns in any order.  What was typed
is kept in one place, which the beginning of a wait empties and the end of a wait empties again.  So
a wait is answered by the latest press that came within it, and no press answers two of them.

* `Console.pending` — the press that a wait would be answered with: the latest one, unless the keys
  were cleared or its digit was taken since.
* `Console.act_of_awaitKey` — how a wait begins.
* `Console.idle_act`, `Console.idle_acts` — while nothing is pending, a wait goes on.
* `Console.step_of_typed` — how a wait ends.
* `Console.AnswersWait`, `Console.LatestPress` — a place of a run at which a wait is answered, and
  the press that counts at a place.
* `Console.exists_start` — a machine that waits has begun to at some place of the run, and what is
  typed is from a press since then.
* `Console.AnswersWait.exists_press` — so a wait is answered by a press that came within it.
* **`Console.key_wait_protocol`** — all of this for every reachable console and every run.
-/

namespace ChipEight

/-- Whether an action settles what is typed. -/
def Action.isTyping : Action → Bool
  | .press _ | .clearKeys | .takeTyped => true
  | _ => false

/-- The machine after a wait that was answered with a key: the digit is in the register, the program
counter has moved past the instruction, and the timers have counted down. -/
def Machine.answered (machine : Machine) (register : Register) (key : Fin 16) : Machine :=
  { machine.setRegister register (UInt8.ofNat key) with
    pc := machine.pc + 2
    delay := max (machine.delay - 1) 0
    sound := max (machine.sound - 1) 0
    activity := .running }

namespace Console

variable {setup : Setup} {console : Console} {action : Action} {actions : List Action}
  {x : Register} {key : Fin 16} {typed : Option (Fin 16)}

/-! ## What is pending -/

/-- The pending press after an action. -/
def pend (typed : Option (Fin 16)) : Action → Option (Fin 16)
  | .press key => some key
  | .clearKeys | .takeTyped => none
  | _ => typed

/-- **The press that is pending after actions:** the latest one, unless the keys were cleared or its
digit was taken since. -/
def pending (actions : List Action) : Option (Fin 16) :=
  actions.foldl pend none

/-- No cycle comes while a press is pending. -/
def Unanswered (actions : List Action) : Prop :=
  ∀ place < actions.length, actions[place]? = some .cycle → pending (actions.take place) = none

instance (actions : List Action) : Decidable (Unanswered actions) :=
  inferInstanceAs (Decidable (∀ place < actions.length, _ → _))

/-- The digit of a press. -/
def digit (typed : Option (Fin 16)) : Option Int :=
  typed.map fun key => (key.val : Int)

lemma pending_concat (actions : List Action) (action : Action) :
    pending (actions ++ [action]) = pend (pending actions) action := by
  rw [pending, List.foldl_append]
  rfl

/-- No cycle comes while a press is pending just if none has so far and the last action is none. -/
lemma unanswered_concat_iff : Unanswered (actions ++ [action]) ↔
    Unanswered actions ∧ (action = .cycle → pending actions = none) := by
  constructor
  · intro h
    refine ⟨fun place hlt hcycle => ?_, fun hcycle => ?_⟩
    · have hplace := h place (by simp; omega)
      rw [List.getElem?_append_left hlt, List.take_append_of_le_length (by omega)] at hplace
      exact hplace hcycle
    · simpa using h actions.length (by simp) (by simp [hcycle])
  · rintro ⟨h, hlast⟩ place hlt hcycle
    rw [List.length_append, List.length_singleton] at hlt
    rcases Nat.lt_or_eq_of_le (Nat.le_of_lt_succ hlt) with hbefore | rfl
    · rw [List.getElem?_append_left hbefore] at hcycle
      rw [List.take_append_of_le_length (by omega)]
      exact h place hbefore hcycle
    · simpa using hlast (by simpa using hcycle)

/-- Whatever a host does is recorded as pending. -/
lemma typed_act (hcycle : action ≠ .cycle) (h : console.keypad.typed = digit typed) :
    (console.act setup action).keypad.typed = digit (pend typed action) := by
  cases action
  case cycle => exact absurd rfl hcycle
  case press | clearKeys | takeTyped => rfl
  all_goals exact h

/-! ## A wait begins, goes on and ends -/

/-- **How a wait begins:** the machine stays where it is, and what was typed is dropped. -/
theorem act_of_awaitKey (wf : console.WellFormed)
    (h : console.executed? setup .cycle = some (.awaitKey x)) :
    (console.act setup .cycle).machine.activity = .awaitingKey x ∧
      (console.act setup .cycle).machine.pc = console.machine.pc ∧
      (console.act setup .cycle).keypad.typed = none := by
  obtain ⟨left, running, fetched, effect, hact⟩ := exists_effect_of_executed? wf h
  obtain ⟨hactivity, hkeypad⟩ := effect.awaited x rfl
  rw [hact]
  refine ⟨hactivity, (pc_le_of_waiting running fetched effect hactivity).2, ?_⟩
  exact congrArg Keypad.typed hkeypad

/-- A wait that nothing was typed for is left alone. -/
lemma step_of_silent (waiting : console.machine.activity = .awaitingKey x)
    (silent : console.keypad.typed = none) : console.step setup = .ran .waiting none console := by
  simp only [step, waiting, Keypad.takeTyped, silent]

/-- **How a wait ends:** the digit that was typed goes to the register, and the machine runs on. -/
theorem step_of_typed (setup : Setup) (wf : console.WellFormed)
    (waiting : console.machine.activity = .awaitingKey x)
    (htyped : console.keypad.typed = some (key.val : Int)) :
    console.step setup = .ran .next (some (.keyStored (UInt8.ofNat key) x))
      { console with
        machine := console.machine.answered x key
        keypad := console.keypad.takeTyped.2 } := by
  have hcycle := cycle_step setup wf
  generalize console.step setup = outcome at hcycle ⊢
  cases hcycle with
  | idle register _ silent =>
      rw [silent] at htyped
      cases htyped
  | answered register digit hwaiting hdigit =>
      rw [waiting] at hwaiting
      cases hwaiting
      rw [htyped, Option.some.injEq, Int.natCast_inj, Fin.val_inj] at hdigit
      subst hdigit
      have hpc := wf.machine.pc_of_waiting x waiting
      have hnonneg := wf.machine.pc_nonneg
      have hdelay := wf.machine.delay_nonneg
      have hsound := wf.machine.sound_nonneg
      simp only [finish, Machine.answered, Machine.countDown_eq, Machine.setRegister, hdelay,
        hsound, reduceCtorEq, if_false]
      rw [Int.emod_eq_of_lt (by omega) (by omega)]
  | refused fault running met =>
      rw [waiting] at running
      cases running
  | executed instruction trace left running fetched sound effect =>
      rw [waiting] at running
      cases running

/-! ## Between the beginning and the end -/

/-- **How a wait goes on:** while nothing is pending, nothing but the keypad changes. -/
theorem idle_act (setup : Setup) (waiting : console.machine.activity = .awaitingKey x)
    (htyped : console.keypad.typed = digit typed) (hplay : action.IsPlay)
    (hidle : action = .cycle → typed = none) :
    console.act setup action =
        { console with keypad := (console.act setup action).keypad } ∧
      (console.act setup action).keypad.typed = digit (pend typed action) := by
  by_cases hcycle : action = .cycle
  · subst hcycle
    have silent : console.keypad.typed = none := by
      rw [htyped, hidle rfl]
      rfl
    rw [act, step_of_silent waiting silent]
    exact ⟨rfl, htyped⟩
  · refine ⟨?_, typed_act hcycle htyped⟩
    cases action
    case cycle => exact absurd rfl hcycle
    case skip | load | reset => exact hplay.elim
    all_goals rfl

/-- A wait goes on until a cycle comes while a press is pending. -/
theorem idle_acts (setup : Setup) (waiting : console.machine.activity = .awaitingKey x)
    (silent : console.keypad.typed = none) (hplay : ∀ action ∈ actions, action.IsPlay)
    (unanswered : Unanswered actions) :
    console.acts setup actions =
        { console with keypad := (console.acts setup actions).keypad } ∧
      (console.acts setup actions).keypad.typed = digit (pending actions) := by
  induction actions using List.reverseRecOn with
  | nil => exact ⟨rfl, silent⟩
  | append_singleton actions action ih =>
      obtain ⟨hbefore, hidle⟩ := unanswered_concat_iff.mp unanswered
      obtain ⟨hsame, htyped⟩ :=
        ih (fun other hmem => hplay other (List.mem_append_left _ hmem)) hbefore
      rw [acts_append, acts_cons, acts_nil, pending_concat]
      generalize console.acts setup actions = before at hsame htyped ⊢
      have hwaiting : before.machine.activity = .awaitingKey x := by rw [hsame, waiting]
      obtain ⟨hact, htyped⟩ := idle_act setup hwaiting htyped
        (hplay action (List.mem_append_right _ (List.mem_singleton_self _))) hidle
      refine ⟨?_, htyped⟩
      rw [hact, hsame]

/-- A machine that waits after an action has just begun to, or it has waited before, and a cycle found
nothing that was typed. -/
theorem awaiting_of_act (wf : console.WellFormed)
    (waiting : (console.act setup action).machine.activity = .awaitingKey x) :
    action = .cycle ∧ console.executed? setup .cycle = some (.awaitKey x) ∨
      console.machine.activity = .awaitingKey x ∧
        (action = .cycle → (console.act setup action).keypad = console.keypad) := by
  cases action with
  | cycle =>
      have hcycle := cycle_step setup wf
      rw [act] at waiting ⊢
      generalize hstep : console.step setup = outcome at hcycle waiting ⊢
      cases hcycle with
      | idle register awaiting silent => exact Or.inr ⟨waiting, fun _ => rfl⟩
      | answered register digit awaiting typed => cases waiting
      | refused fault running met => exact Or.inr ⟨waiting, fun _ => rfl⟩
      | executed instruction trace left running fetched sound effect =>
          obtain ⟨rfl, -⟩ := pc_le_of_waiting running fetched effect waiting
          exact Or.inl ⟨rfl, executed?_of_ran running fetched hstep⟩
  | skip => cases waiting
  | reset => cases waiting
  | load program =>
      obtain ⟨memory, hload⟩ := load_getD console.machine program
      simp only [act, hload] at waiting
      exact Or.inr ⟨waiting, fun h => by cases h⟩
  | press | release | clearKeys | takeTyped => exact Or.inr ⟨waiting, fun h => by cases h⟩

/-! ## Places of a run -/

/-- The console that a run has brought about from power-on when it comes to a place. -/
def front (setup : Setup) (actions : List Action) (place : Nat) : Console :=
  ({} : Console).acts setup (actions.take place)

/-- **A place at which a wait is answered:** a cycle makes a machine run that has waited. -/
structure AnswersWait (setup : Setup) (actions : List Action) (place : Nat) (x : Register) :
    Prop where
  cycle : actions[place]? = some .cycle
  before : (front setup actions place).machine.activity = .awaitingKey x
  after : (front setup actions (place + 1)).machine.activity = .running

/-- **The press that counts at a place:** it has come before, and nothing has settled since what is
typed. -/
structure LatestPress (actions : List Action) (place press : Nat) (key : Fin 16) : Prop where
  lt : press < place
  pressed : actions[press]? = some (.press key)
  last : ∀ between, press < between → between < place →
    ∀ action ∈ actions[between]?, action.isTyping = false

/-- A place at which a machine has waited since an earlier one, and what can be typed there. -/
structure WaitsSince (setup : Setup) (actions : List Action) (start place : Nat) (x : Register) :
    Prop where
  lt : start < place
  begun : actions[start]? = some .cycle ∧
    (front setup actions start).executed? setup .cycle = some (.awaitKey x)
  waits : ∀ middle, start < middle → middle ≤ place →
    (front setup actions middle).machine.activity = .awaitingKey x
  typed : ∀ number ∈ (front setup actions place).keypad.typed,
    ∃ press key, start < press ∧ LatestPress actions place press key ∧ number = key.val

lemma wellFormed_front (setup : Setup) (actions : List Action) (place : Nat) :
    (front setup actions place).WellFormed :=
  wellFormed_powerOn.acts _

/-- The next place of a run. -/
lemma front_succ {place : Nat} (h : actions[place]? = some action) :
    front setup actions (place + 1) = (front setup actions place).act setup action := by
  rw [front, List.take_add_one, h, acts_append]
  rfl

/-- A press is the latest one when it comes. -/
lemma LatestPress.of_press {place : Nat} (h : actions[place]? = some (.press key)) :
    LatestPress actions (place + 1) place key :=
  ⟨Nat.lt_succ_self _, h, fun between hlt hle => by omega⟩

/-- A press stays the latest one until something settles again what is typed. -/
lemma LatestPress.succ {place press : Nat} (latest : LatestPress actions place press key)
    (h : ∀ action ∈ actions[place]?, action.isTyping = false) :
    LatestPress actions (place + 1) press key := by
  refine ⟨by have := latest.lt; omega, latest.pressed, fun between hlt hle => ?_⟩
  rcases Nat.lt_or_eq_of_le (Nat.le_of_lt_succ hle) with hbefore | rfl
  · exact latest.last between hlt hbefore
  · exact h

/-- There is only one latest press. -/
lemma LatestPress.unique {place press press' : Nat} {key' : Fin 16}
    (latest : LatestPress actions place press key)
    (latest' : LatestPress actions place press' key') : press = press' := by
  rcases Nat.lt_trichotomy press press' with hlt | heq | hlt
  · cases latest.last press' hlt latest'.lt _ latest'.pressed
  · exact heq
  · cases latest'.last press hlt latest.lt _ latest.pressed

/-! ## Waits of a run -/

/-- A wait that a cycle begins lasts at the next place, where nothing is typed. -/
lemma WaitsSince.of_begun {place : Nat} (hcycle : actions[place]? = some .cycle)
    (h : (front setup actions place).executed? setup .cycle = some (.awaitKey x)) :
    WaitsSince setup actions place (place + 1) x := by
  obtain ⟨hactivity, -, hsilent⟩ := act_of_awaitKey (wellFormed_front setup actions place) h
  refine ⟨Nat.lt_succ_self _, ⟨hcycle, h⟩, fun middle hlt hle => ?_, fun number hnumber => ?_⟩
  · obtain rfl : middle = place + 1 := by omega
    rw [front_succ hcycle, hactivity]
  · rw [front_succ hcycle, hsilent] at hnumber
    cases hnumber

/-- A wait that goes on has what is typed from a press within it. -/
lemma WaitsSince.succ {start place : Nat} (since : WaitsSince setup actions start place x)
    (h : actions[place]? = some action)
    (waiting : (front setup actions (place + 1)).machine.activity = .awaitingKey x)
    (hkeypad : action = .cycle → (front setup actions (place + 1)).keypad =
      (front setup actions place).keypad) :
    WaitsSince setup actions start (place + 1) x := by
  have hlt := since.lt
  refine ⟨by omega, since.begun, fun middle hmiddle hle => ?_, fun number hnumber => ?_⟩
  · rcases Nat.lt_or_eq_of_le hle with hbefore | rfl
    · exact since.waits middle hmiddle (Nat.le_of_lt_succ hbefore)
    · exact waiting
  · -- an action that settles nothing leaves both what is typed and the press that it is from
    have hkept (hsame : (front setup actions (place + 1)).keypad.typed =
        (front setup actions place).keypad.typed) (htyping : action.isTyping = false) :
        ∃ press key, start < press ∧ LatestPress actions (place + 1) press key ∧
          number = key.val := by
      obtain ⟨press, key, hpress, latest, heq⟩ := since.typed number (hsame ▸ hnumber)
      refine ⟨press, key, hpress, latest.succ fun other hother => ?_, heq⟩
      rw [h] at hother
      cases hother
      exact htyping
    cases action with
    | cycle => exact hkept (congrArg Keypad.typed (hkeypad rfl)) rfl
    | press key =>
        rw [front_succ h] at hnumber
        cases hnumber
        exact ⟨place, key, hlt, .of_press h, rfl⟩
    | clearKeys | takeTyped =>
        rw [front_succ h] at hnumber
        cases hnumber
    | skip | load | reset | release =>
        exact hkept (by rw [front_succ h]; rfl) rfl

/-- **A machine that waits has begun to at some place of the run,** and what is typed is from a press
since then. -/
theorem exists_start {place : Nat} (hle : place ≤ actions.length)
    (waiting : (front setup actions place).machine.activity = .awaitingKey x) :
    ∃ start, WaitsSince setup actions start place x := by
  induction place with
  | zero => cases waiting
  | succ place ih =>
      have h : actions[place]? = some actions[place] := List.getElem?_eq_getElem hle
      have hact := waiting
      rw [front_succ h] at hact
      rcases awaiting_of_act (wellFormed_front setup actions place) hact with
        ⟨hcycle, hexecuted⟩ | ⟨hbefore, hkeypad⟩
      · exact ⟨place, .of_begun (hcycle ▸ h) hexecuted⟩
      · obtain ⟨start, since⟩ := ih (by omega) hbefore
        refine ⟨start, since.succ h waiting fun hcycle => ?_⟩
        rw [front_succ h]
        exact hkeypad hcycle

/-- **An answered wait was answered by a press that came after it began.** -/
theorem AnswersWait.exists_press {place : Nat} (answers : AnswersWait setup actions place x) :
    ∃ start press key, WaitsSince setup actions start place x ∧ start < press ∧
      LatestPress actions place press key ∧
      (front setup actions (place + 1)).machine.register x = UInt8.ofNat key := by
  obtain ⟨hlt, -⟩ := List.getElem?_eq_some_iff.mp answers.cycle
  obtain ⟨start, since⟩ := exists_start (Nat.le_of_lt hlt) answers.before
  have hafter := answers.after
  rw [front_succ answers.cycle, act] at hafter ⊢
  cases htyped : (front setup actions place).keypad.typed with
  | none =>
      rw [step_of_silent answers.before htyped, Outcome.left, answers.before] at hafter
      cases hafter
  | some number =>
      obtain ⟨press, key, hpress, latest, rfl⟩ := since.typed number htyped
      rw [step_of_typed setup (wellFormed_front setup actions place) answers.before htyped]
      refine ⟨start, press, key, since, hpress, latest, ?_⟩
      simp only [Outcome.left, Machine.answered, Machine.setRegister, Machine.register,
        Fin.getElem_fin, Vector.getElem_set_self]

/-- A press that answers a wait answers no later one. -/
lemma AnswersWait.press_lt {place place' press press' : Nat} {x' : Register} {key' : Fin 16}
    (answers : AnswersWait setup actions place x) (answers' : AnswersWait setup actions place' x')
    (latest : LatestPress actions place press key)
    (latest' : LatestPress actions place' press' key') (hlt : place < place') :
    press < press' := by
  obtain ⟨start, other, _, since, hstart, hother, -⟩ := answers'.exists_press
  obtain rfl := hother.unique latest'
  -- the machine ran in between, so the later wait has begun behind the earlier answer
  by_contra hle
  have hwaits := since.waits (place + 1) (by have := latest.lt; omega) (by omega)
  rw [answers.after] at hwaits
  cases hwaits

/-! ## The whole protocol -/

/-- **Waits for a key,** under any setup.

* When a reachable console carries out a wait, the program counter stays where it is and what was
  typed before is dropped.  From then on cycles come in any order with what a host does to the keys.
  While nothing is pending, a cycle finds the machine waiting and leaves everything as it is.  The
  first cycle that comes while a press is pending carries out no instruction: it puts the digit of
  that press in the register, whether or not the key is still held, moves past the wait, counts
  the timers down and lets the machine run.
* In every run from power-on, also one with programs put into memory, skips and resets, an answered
  wait has begun at a cycle before and has lasted since.  The latest press before the answer lies
  behind that beginning, and its digit is what the register holds afterwards.  No two answered waits
  have the same press. -/
theorem key_wait_protocol (setup : Setup) :
    (∀ console x, Reachable setup console →
      console.executed? setup .cycle = some (.awaitKey x) →
      let begun := console.act setup .cycle
      begun.machine.activity = .awaitingKey x ∧ begun.machine.pc = console.machine.pc ∧
        begun.keypad.typed = none ∧
        ∀ actions, (∀ action ∈ actions, action.IsPlay) → Unanswered actions →
          let now := begun.acts setup actions
          now = { begun with keypad := now.keypad } ∧
            (pending actions = none → now.step setup = .ran .waiting none now) ∧
            ∀ key, pending actions = some key →
              now.executed? setup .cycle = none ∧
                now.step setup = .ran .next (some (.keyStored (UInt8.ofNat key) x))
                  { now with
                    machine := begun.machine.answered x key
                    keypad := now.keypad.takeTyped.2 }) ∧
    ∀ actions : List Action,
      (∀ place x, AnswersWait setup actions place x →
        ∃ start press key, start < press ∧ LatestPress actions place press key ∧
          actions[start]? = some .cycle ∧
          (front setup actions start).executed? setup .cycle = some (.awaitKey x) ∧
          (∀ middle, start < middle → middle ≤ place →
            (front setup actions middle).machine.activity = .awaitingKey x) ∧
          (front setup actions (place + 1)).machine.register x = UInt8.ofNat key) ∧
      ∀ place place' x x' press press' key key',
        AnswersWait setup actions place x → AnswersWait setup actions place' x' →
        LatestPress actions place press key → LatestPress actions place' press' key' →
        (place = place' ↔ press = press') := by
  refine ⟨?_, fun actions => ⟨?_, ?_⟩⟩
  · intro console x reach hexecuted begun
    have wf : begun.WellFormed := reach.wellFormed.act .cycle
    obtain ⟨hactivity, hpc, hsilent⟩ := act_of_awaitKey reach.wellFormed hexecuted
    refine ⟨hactivity, hpc, hsilent, ?_⟩
    intro actions hplay unanswered now
    obtain ⟨hnow, htyped⟩ := idle_acts setup hactivity hsilent hplay unanswered
    have hmachine : now.machine = begun.machine := by
      change (begun.acts setup actions).machine = begun.machine
      rw [hnow]
    have hwaiting : now.machine.activity = .awaitingKey x := by rw [hmachine, hactivity]
    refine ⟨hnow, fun hnone => ?_, fun key hkey => ⟨?_, ?_⟩⟩
    · exact step_of_silent hwaiting (by rw [htyped, hnone]; rfl)
    · simp only [executed?, hwaiting]
    · rw [← hmachine]
      exact step_of_typed setup (wf.acts actions) hwaiting (by rw [htyped, hkey]; rfl)
  · intro place x answers
    obtain ⟨start, press, key, since, hpress, latest, hregister⟩ := answers.exists_press
    exact ⟨start, press, key, hpress, latest, since.begun.1, since.begun.2, since.waits, hregister⟩
  · intro place place' x x' press press' key key' answers answers' latest latest'
    constructor
    · rintro rfl
      exact latest.unique latest'
    · rintro rfl
      rcases Nat.lt_trichotomy place place' with hlt | heq | hlt
      · exact absurd (answers.press_lt answers' latest latest' hlt) (Nat.lt_irrefl _)
      · exact heq
      · exact absurd (answers'.press_lt answers latest' latest hlt) (Nat.lt_irrefl _)

/-- Two waits in a row.  The first drops the key that was pressed before it, stays when nothing was
pressed, and is answered with the latest of two presses after the key was let go; the second needs a
press of its own. -/
theorem key_wait_protocol_two_waits :
    let first : List Action := [.load [0xF3, 0x0A, 0xF4, 0x0A], .press 9]
    let idle : List Action := [.cycle, .press 5, .press 7, .release 7]
    let run := first ++ .cycle :: idle ++ [.cycle, .cycle, .cycle, .press 7, .cycle]
    let begun := (({} : Console).acts {} first).act {} .cycle
    let now := begun.acts {} idle
    begun.machine.activity = .awaitingKey 3 ∧ begun.machine.pc = 0x200 ∧
      begun.keypad.typed = none ∧ begun.step {} = .ran .waiting none begun ∧
      now.step {} = .ran .next (some (.keyStored 7 3))
        { now with machine := begun.machine.answered 3 7, keypad := now.keypad.takeTyped.2 } ∧
      AnswersWait {} run 7 3 ∧ AnswersWait {} run 11 4 ∧
      (∃ start press key, start < press ∧ LatestPress run 11 press key ∧
        run[start]? = some .cycle ∧
        (front {} run start).executed? {} .cycle = some (.awaitKey 4) ∧
        (∀ middle, start < middle → middle ≤ 11 →
          (front {} run middle).machine.activity = .awaitingKey 4) ∧
        (front {} run (11 + 1)).machine.register 4 = UInt8.ofNat key) ∧
      ∀ press press' key key', LatestPress run 7 press key → LatestPress run 11 press' key' →
        press ≠ press' := by
  intro first idle run begun now
  obtain ⟨hexecuted, hplace, hcycle, hbefore, hafter, hcycle', hbefore', hafter'⟩ :
      (({} : Console).acts {} first).executed? {} .cycle = some (.awaitKey 3) ∧
        (({} : Console).acts {} first).machine.pc = 0x200 ∧
        run[7]? = some .cycle ∧ (front {} run 7).machine.activity = .awaitingKey 3 ∧
        (front {} run (7 + 1)).machine.activity = .running ∧
        run[11]? = some .cycle ∧ (front {} run 11).machine.activity = .awaitingKey 4 ∧
        (front {} run (11 + 1)).machine.activity = .running := by
    decide +kernel
  obtain ⟨hwait, hruns⟩ := key_wait_protocol {}
  obtain ⟨hactivity, hpc, hsilent, hgoes⟩ :=
    hwait _ 3 (reachable_iff.mpr ⟨first, rfl⟩) hexecuted
  have hplay : ∀ action ∈ idle, action.IsPlay := by simp [idle, Action.IsPlay]
  have hpending : pending idle = some 7 := by decide
  have hstart := (hgoes [] (fun _ h => absurd h List.not_mem_nil) (by decide)).2.1 rfl
  have hend := ((hgoes idle hplay (by decide)).2.2 7 hpending).2
  have answers : AnswersWait {} run 7 3 := ⟨hcycle, hbefore, hafter⟩
  have answers' : AnswersWait {} run 11 4 := ⟨hcycle', hbefore', hafter'⟩
  refine ⟨hactivity, hpc.trans hplace, hsilent, hstart, hend, answers, answers',
    (hruns run).1 11 4 answers', ?_⟩
  intro press press' key key' latest latest' heq
  have hsame := ((hruns run).2 _ _ _ _ _ _ _ _ answers answers' latest latest').mpr heq
  cases hsame

end Console

end ChipEight
