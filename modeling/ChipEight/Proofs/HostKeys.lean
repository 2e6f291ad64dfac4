import ChipEight.Proofs.Footprint
import ChipEight.Proofs.WindowRuns
import Mathlib.Data.List.Induction

/-!
# The keypad mirrors the keys of the host

A window sees keys go down and up, and in between its machine asks for what was typed.  Whatever
else happens, which digits are held and which digit is typed can be read off what was played: of a
digit the last stroke of its key counts, and what is typed is the last digit that went down, unless
a cycle has taken it since.

* `Console.takesTyped`, `Console.keypad_cycle` — the cycles that take what is typed, and what a
  cycle does to the keypad.
* `Window.OneKeyEach`, `Window.oneKeyEach_keysOf` — in both layouts each digit has a key of its own,
  which is no command.
* `Window.Event.digit?`, **`Window.keypad_handle`** — what an event does to the keypad.
* `Window.lastStroke`, `Window.Pending` — the last stroke of a key, and the digit that nothing has
  taken yet.
* **`Window.mirrors_of_play`** — the keypad at any moment of any run.
-/

namespace ChipEight

/-! ## What a cycle does to the keypad -/

namespace Console

variable {setup : Setup} {console : Console} {actions : List Action}

/-- **A cycle takes what is typed:** the machine waits and asks for a key, or the cycle carries out
the instruction that begins a wait. -/
def takesTyped (setup : Setup) (console : Console) : Bool :=
  console.machine.isWaiting || (console.executed? setup .cycle).any Instruction.isWait

/-- **A cycle changes nothing about the keypad but that it may take what is typed.** -/
theorem keypad_cycle (wf : console.WellFormed) :
    (console.act setup .cycle).keypad =
      if console.takesTyped setup then console.keypad.takeTyped.2 else console.keypad := by
  have hcycle := cycle_step setup wf
  rw [act]
  generalize hstep : console.step setup = outcome at hcycle
  cases hcycle with
  | idle register waiting silent =>
      have htaken : console.keypad.takeTyped.2 = console.keypad := by
        rw [Keypad.takeTyped, ← silent]
      rw [htaken, ite_self]
      rfl
  | answered register digit waiting typed =>
      rw [takesTyped, Machine.isWaiting, waiting]
      rfl
  | refused fault running met =>
      simp only [takesTyped, Machine.isWaiting, executed?, running, hstep]
      rfl
  | executed instruction trace left running fetched sound effect =>
      rw [takesTyped, executed?_of_ran running fetched hstep, Machine.isWaiting, running,
        Option.any_some, Bool.false_or]
      cases hwait : instruction.isWait with
      | true =>
          cases instruction
          case awaitKey x => exact (effect.awaited x rfl).2
          all_goals cases hwait
      | false =>
          refine (effect.running fun x h => ?_).2
          rw [h] at hwait
          cases hwait

/-- A cycle that is refused takes nothing. -/
lemma takesTyped_of_faulted (wf : console.WellFormed) {fault : Fault} {left : Console}
    (h : console.step setup = .faulted fault left) : console.takesTyped setup = false := by
  have hcycle := cycle_step setup wf
  rw [h] at hcycle
  cases hcycle with
  | refused fault running met =>
      simp only [takesTyped, Machine.isWaiting, executed?, running, h]
      rfl

/-- **Cycles and skips change nothing about the keypad** but that one of the cycles may take what is
typed. -/
theorem keypad_acts (wf : console.WellFormed)
    (hactions : ∀ action ∈ actions, action = .cycle ∨ action = .skip) :
    (console.acts setup actions).keypad =
      if (console.attempted setup actions).any (takesTyped setup) then console.keypad.takeTyped.2
      else console.keypad := by
  induction actions generalizing console with
  | nil => rfl
  | cons action rest ih =>
      obtain ⟨hfirst, hrest⟩ := List.forall_mem_cons.mp hactions
      rw [acts_cons, ih (wf.act action) hrest, attempted, List.any_append]
      rcases hfirst with rfl | rfl
      · rw [keypad_cycle wf, if_pos rfl, List.any_cons, List.any_nil, Bool.or_false]
        cases console.takesTyped setup with
        | true => simp [Keypad.takeTyped]
        | false => rfl
      · rfl

end Console

/-- A pacer attempts cycles or skips, and does nothing else to its console. -/
lemma Paced.cycle_or_skip_of_mem {setup : Setup} {paced : Paced} {command : Pacer.Command}
    {action : Action} (h : action ∈ Paced.actions setup command paced) :
    action = .cycle ∨ action = .skip := by
  rw [actions] at h
  split at h
  · exact Or.inr (List.mem_singleton.mp h)
  · obtain ⟨event, -, hevent⟩ := List.mem_filterMap.mp h
    cases event with
    | presented picture => cases hevent
    | ran | faulted | stuck => exact Or.inl (Option.some.inj hevent).symm

/-! ## Key maps -/

/-- A value that is found in a table is in it. -/
lemma Table.mem_of_find? {α β : Type} [DecidableEq α] {table : Table α β} {key : α} {value : β}
    (h : table.find? key = some value) : (key, value) ∈ table := by
  induction table with
  | nil => cases h
  | cons entry rest ih =>
      rw [find?] at h
      split at h
      · rename_i hkey
        cases h
        rw [← hkey]
        exact List.mem_cons_self
      · exact List.mem_cons_of_mem _ (ih h)

namespace Window

variable {window : Window} {event : Event} {keys : Table String (Fin 16)} {digit : Fin 16}

/-- **Each digit has a key of its own,** and no command has a digit. -/
structure OneKeyEach (keys : Table String (Fin 16)) : Prop where
  exists_key : ∀ digit, ∃ key, ∀ other, keys.find? other = some digit ↔ other = key
  control : ∀ key ∈ controls, keys.find? key = none

/-- Whether each digit has a key of its own can be seen from the entries of the table. -/
lemma oneKeyEach_of_entries
    (hentries : ∀ digit, ∃ entry ∈ keys, keys.find? entry.1 = some digit ∧
      ∀ other ∈ keys, other.2 = digit → other.1 = entry.1)
    (hcontrol : ∀ key ∈ controls, keys.find? key = none) : OneKeyEach keys where
  exists_key := by
    intro digit
    obtain ⟨⟨key, value⟩, -, hfind, honly⟩ := hentries digit
    refine ⟨key, fun other => ⟨fun h => ?_, ?_⟩⟩
    · exact honly (other, digit) (Table.mem_of_find? h) rfl
    · rintro rfl
      exact hfind
  control := hcontrol

/-- **In both layouts each digit has a key of its own.** -/
theorem oneKeyEach_keysOf {layout : Layout (Fin 16)}
    (h : layout = Layout.cosmac ∨ layout = Layout.hexadecimal) : OneKeyEach (keysOf layout) := by
  rcases h with rfl | rfl
  · exact oneKeyEach_of_entries (by decide +kernel) (by decide +kernel)
  · exact oneKeyEach_of_entries (by decide +kernel) (by decide +kernel)

/-! ## What an event does to the keypad -/

/-- The digit of the key that goes down or up at an event. -/
def Event.digit? (keys : Table String (Fin 16)) : Event → Option (Fin 16)
  | .press key | .release key => keys.find? key
  | .tick | .wait _ | .draw => none

/-- What a stroke does to the keypad. -/
def Event.stroke (event : Event) (digit : Fin 16) (keypad : Keypad) : Keypad :=
  match event with
  | .press _ => keypad.press digit
  | .release _ => keypad.release digit
  | .tick | .wait _ | .draw => keypad

/-- A command has no digit. -/
lemma digit?_of_command (own : OneKeyEach keys) {command : Pacer.Command}
    (h : event.command? = some command) : event.digit? keys = none := by
  cases event with
  | press key =>
      refine own.control key ?_
      simp only [Event.command?] at h
      simp only [controls, List.mem_cons]
      grind
  | release key => cases h
  | tick | wait | draw => rfl

/-- **What an event does to the keypad:** the stroke of a key that has a digit is felt there, and
nothing else is but that a cycle may take what is typed. -/
theorem keypad_handle (wf : window.paced.console.WellFormed) (own : OneKeyEach window.keys)
    (event : Event) :
    let keypad := window.paced.console.keypad
    (window.handle event).1.paced.console.keypad =
      match event.digit? window.keys with
      | some digit => event.stroke digit keypad
      | none =>
        if (window.cycles [event]).any (Console.takesTyped window.setup) then keypad.takeTyped.2
        else keypad := by
  cases h : event.command? with
  | some command =>
      rw [handle_console, digit?_of_command own h, cycles_of_command h]
      simp only [actions, h]
      exact Console.keypad_acts wf fun action hmem => Paced.cycle_or_skip_of_mem hmem
  | none =>
      rw [handle_console, cycles_of_no_command h]
      simp only [actions, h]
      cases event with
      | press key =>
          simp only [Event.keyAction?, Event.digit?]
          split
          · rename_i hcontrol
            rw [own.control key hcontrol]
            rfl
          · cases window.keys.find? key <;> rfl
      | release key =>
          simp only [Event.keyAction?, Event.digit?]
          cases window.keys.find? key <;> rfl
      | tick | wait | draw => rfl

/-! ## What has been played -/

/-- **The last stroke of a key:** whether it went down or up when something happened to it last. -/
def lastStroke (history : List Event) (key : String) : Option Event :=
  (history.filter fun event => event = .press key ∨ event = .release key).getLast?

/-- The next event is the last stroke of its key. -/
lemma lastStroke_concat (history : List Event) (event : Event) (key : String) :
    lastStroke (history ++ [event]) key =
      if event = .press key ∨ event = .release key then some event
      else lastStroke history key := by
  by_cases h : event = .press key ∨ event = .release key
  · rw [if_pos h, lastStroke, List.filter_append, List.filter_cons_of_pos (by simpa using h),
      List.filter_nil, List.getLast?_concat]
  · rw [if_neg h, lastStroke, List.filter_append, List.filter_cons_of_neg (by simpa using h),
      List.filter_nil, List.append_nil, lastStroke]

/-- **The digit that is pending after some events:** that of the last key with a digit that went
down, unless a cycle has taken it since. -/
def Pending (window : Window) (history : List Event) (digit : Fin 16) : Prop :=
  ∃ earlier key later, history = earlier ++ .press key :: later ∧
    window.keys.find? key = some digit ∧
    (∀ other, .press other ∈ later → window.keys.find? other = none) ∧
    ∀ console ∈ (window.after (earlier ++ [.press key])).cycles later,
      console.takesTyped window.setup = false

/-- The digit of a stroke is that of its key. -/
lemma digit?_of_stroke {key : String} (h : event = .press key ∨ event = .release key) :
    event.digit? keys = keys.find? key := by
  rcases h with rfl | rfl <;> rfl

/-- **A digit is held if its key went down when something happened to it last.** -/
theorem isDown_after (wf : window.paced.console.WellFormed) (own : OneKeyEach window.keys)
    (hempty : window.paced.console.keypad = {}) {key : String}
    (hkey : ∀ other, window.keys.find? other = some digit ↔ other = key) (events : List Event) :
    (window.after events).paced.console.keypad.isDown digit = true ↔
      lastStroke events key = some (.press key) := by
  -- from the end: the last event is a stroke of the key, of another one, or none at all
  induction events using List.reverseRecOn with
  | nil => simp [hempty, lastStroke, Keypad.isDown]
  | append_singleton events event ih =>
      have hkeys := (after_fixed events window).2.1
      have hhandle := keypad_handle (wellFormed_after wf events) (hkeys.symm ▸ own) event
      rw [hkeys] at hhandle
      rw [after_append, after_cons, after_nil, hhandle, lastStroke_concat]
      by_cases hstroke : event = .press key ∨ event = .release key
      · rw [if_pos hstroke, digit?_of_stroke hstroke, (hkey key).mpr rfl]
        rcases hstroke with rfl | rfl
        · simp [Event.stroke]
        · simp [Event.stroke]
      · rw [if_neg hstroke, ← ih]
        cases hdigit : event.digit? window.keys with
        | none =>
            dsimp only
            split <;> rfl
        | some other =>
            -- the digit of another key is another digit
            have hother : other ≠ digit := by
              rintro rfl
              cases event with
              | press name => exact hstroke (Or.inl (congrArg Event.press ((hkey name).mp hdigit)))
              | release name =>
                  exact hstroke (Or.inr (congrArg Event.release ((hkey name).mp hdigit)))
              | tick | wait | draw => cases hdigit
            cases event with
            | press name => simp [Event.stroke, hother]
            | release name => simp [Event.stroke, hother]
            | tick | wait | draw => rfl

/-- A digit is pending behind the press of its key. -/
lemma pending_concat_press {history : List Event} {key : String} {other : Fin 16}
    (hkey : window.keys.find? key = some digit) :
    Pending window (history ++ [.press key]) other ↔ digit = other := by
  constructor
  · rintro ⟨earlier, name, later, hsplit, hname, hfree, -⟩
    rcases List.eq_nil_or_concat later with rfl | ⟨middle, last, rfl⟩
    · obtain ⟨-, hlast⟩ := List.append_inj' hsplit rfl
      cases hlast
      exact Option.some.inj (hkey.symm.trans hname)
    · rw [List.concat_eq_append, ← List.cons_append, ← List.append_assoc] at hsplit
      obtain ⟨-, hlast⟩ := List.append_inj' hsplit rfl
      cases hlast
      rw [hfree key (by simp)] at hkey
      cases hkey
  · rintro rfl
    exact ⟨history, key, [], rfl, hkey, by simp, List.forall_mem_nil _⟩

/-- Behind any other event the same digit is pending, if no cycle has taken it. -/
lemma pending_concat_other {history : List Event}
    (hevent : ∀ key, event = .press key → window.keys.find? key = none) :
    Pending window (history ++ [event]) digit ↔ Pending window history digit ∧
      ∀ console ∈ (window.after history).cycles [event],
        console.takesTyped window.setup = false := by
  constructor
  · rintro ⟨earlier, key, later, hsplit, hkey, hfree, htaken⟩
    rcases List.eq_nil_or_concat later with rfl | ⟨middle, last, rfl⟩
    · obtain ⟨-, hlast⟩ := List.append_inj' hsplit rfl
      rw [hevent key (List.head_eq_of_cons_eq hlast)] at hkey
      cases hkey
    · rw [List.concat_eq_append] at hsplit hfree htaken
      rw [← List.cons_append, ← List.append_assoc] at hsplit
      obtain ⟨rfl, hlast⟩ := List.append_inj' hsplit rfl
      obtain rfl := List.head_eq_of_cons_eq hlast
      rw [cycles_append, ← after_append, List.append_assoc, List.singleton_append,
        List.forall_mem_append] at htaken
      exact ⟨⟨earlier, key, middle, rfl, hkey,
        fun other hmem => hfree other (List.mem_append_left _ hmem), htaken.1⟩, htaken.2⟩
  · rintro ⟨⟨earlier, key, later, rfl, hkey, hfree, htaken⟩, hlast⟩
    refine ⟨earlier, key, later ++ [event], by simp, hkey, fun other hmem => ?_, ?_⟩
    · rcases List.mem_append.mp hmem with hmem | hmem
      · exact hfree other hmem
      · exact hevent other (List.mem_singleton.mp hmem).symm
    · rw [cycles_append, ← after_append, List.append_assoc, List.singleton_append]
      exact List.forall_mem_append.mpr ⟨htaken, hlast⟩

/-- **What is typed is the digit that is pending.** -/
theorem typed_after (wf : window.paced.console.WellFormed) (own : OneKeyEach window.keys)
    (hempty : window.paced.console.keypad = {}) (events : List Event) (number : Int) :
    (window.after events).paced.console.keypad.typed = some number ↔
      ∃ digit : Fin 16, number = digit.val ∧ Pending window events digit := by
  -- from the end: a key with a digit goes down last, or what is typed stays unless it is taken
  induction events using List.reverseRecOn with
  | nil => simp [hempty, Pending]
  | append_singleton events event ih =>
      obtain ⟨hsetup, hkeys, -⟩ := after_fixed events window
      have hhandle := keypad_handle (wellFormed_after wf events) (hkeys.symm ▸ own) event
      rw [hkeys, hsetup] at hhandle
      rw [after_append, after_cons, after_nil, hhandle]
      by_cases hpress : ∃ key digit, event = .press key ∧ window.keys.find? key = some digit
      · obtain ⟨key, digit, rfl, hkey⟩ := hpress
        simp only [Event.digit?, hkey, Event.stroke, Keypad.press, Option.some.injEq,
          pending_concat_press hkey, exists_eq_right', eq_comm]
      · have hother : ∀ key, event = .press key → window.keys.find? key = none := by
          intro key hevent
          by_contra hne
          obtain ⟨digit, hdigit⟩ := Option.ne_none_iff_exists'.mp hne
          exact hpress ⟨key, digit, hevent, hdigit⟩
        simp only [pending_concat_other hother, ← and_assoc, exists_and_right, ← ih]
        cases hdigit : event.digit? window.keys with
        | none =>
            dsimp only
            cases hany : ((window.after events).cycles [event]).any
                (Console.takesTyped window.setup) with
            | true =>
                obtain ⟨console, hmem, htaken⟩ := List.any_eq_true.mp hany
                refine iff_of_false (by simp [Keypad.takeTyped]) ?_
                rintro ⟨-, hall⟩
                rw [hall console hmem] at htaken
                cases htaken
            | false =>
                rw [List.any_eq_false] at hany
                refine (and_iff_left fun console hmem => ?_).symm
                exact Bool.eq_false_iff.mpr (hany console hmem)
        | some digit =>
            -- only a key can have a digit, and this one goes up
            cases event with
            | press key => exact absurd ⟨key, digit, rfl, hdigit⟩ hpress
            | release key =>
                rw [cycles_of_no_command rfl]
                exact (and_iff_left (List.forall_mem_nil _)).symm
            | tick | wait | draw => cases hdigit

/-- **The keypad of a window mirrors what was played.** -/
structure Mirrors (window : Window) (history : List Event) (now : Window) : Prop where
  /-- Each digit has a key of its own, and it is held if this key went down when something happened
  to it last. -/
  held : ∀ digit, ∃ key, (∀ other, window.keys.find? other = some digit ↔ other = key) ∧
    (now.paced.console.keypad.isDown digit = true ↔ lastStroke history key = some (.press key))
  /-- What is typed is the digit of the last key with a digit that went down, unless a cycle has
  taken it since. -/
  typed : ∀ number, now.paced.console.keypad.typed = some number ↔
    ∃ digit : Fin 16, number = digit.val ∧ Pending window history digit
  /-- No command has a digit. -/
  control : ∀ key ∈ controls, window.keys.find? key = none
  /-- An event that is no stroke of a key with a digit neither holds nor releases any digit, and
  what was typed stays as it was unless one of the cycles of the event takes it. -/
  spared : ∀ earlier event later, history = earlier ++ event :: later →
    event.digit? window.keys = none →
    let before := window.after earlier
    let after := (before.handle event).1
    after.paced.console.keypad.held = before.paced.console.keypad.held ∧
      after.paced.console.keypad.typed =
        if (before.cycles [event]).any (Console.takesTyped window.setup) then none
        else before.paced.console.keypad.typed
  /-- There are cycles only in frames and in single steps. -/
  cycles : ∀ earlier event later, history = earlier ++ event :: later →
    (window.after earlier).cycles [event] ≠ [] → event = .tick ∨ event = .press "F2"
  /-- A cycle that is refused takes nothing. -/
  refused : ∀ console ∈ window.cycles history, ∀ fault left,
    console.step window.setup = .faulted fault left → console.takesTyped window.setup = false

/-- Cycles are attempted in frames and in single steps alone. -/
lemma runs_of_cycles_ne_nil (h : window.cycles [event] ≠ []) :
    event = .tick ∨ event = .press "F2" := by
  cases hcommand : event.command? with
  | none => exact absurd (cycles_of_no_command hcommand window) h
  | some command =>
      have runs : command = .runFrame ∨ command = .stepOnce :=
        Decidable.byContradiction fun idle =>
          h (cycles_of_idle_command hcommand idle window)
      cases event with
      | press key =>
          simp only [Event.command?] at hcommand
          grind
      | tick => exact Or.inl rfl
      | release | wait | draw => cases hcommand

/-- In a new window each digit has a key of its own, whichever layout it was opened with. -/
lemma IsNew.oneKeyEach (new : window.IsNew) : OneKeyEach window.keys := by
  obtain ⟨options, setup, journal, program, machine, -, rfl⟩ := new
  refine oneKeyEach_keysOf ?_
  split
  · exact Or.inl rfl
  · exact Or.inr rfl

/-- **The keypad of a window mirrors the keys of the host.**  Let any events happen to a window that
has just opened, with either layout.  A digit is held just if the last stroke of its key went down;
what is typed is the digit of the last key that went down, unless a cycle has taken it since; and no
command, no key without a digit and no refused cycle has a hand in either. -/
theorem mirrors_of_play (new : window.IsNew) (events : List Event) :
    Mirrors window (played events window) (play events window).1 := by
  have own := new.oneKeyEach
  have wf := new.wellFormed
  have hempty : window.paced.console.keypad = {} := by
    obtain ⟨_, _, _, _, _, -, rfl⟩ := new
    rfl
  rw [play_eq]
  refine {
    held := fun digit => ?_
    typed := typed_after wf own hempty _
    control := own.control
    spared := fun earlier event _ _ hdigit => ?_
    cycles := fun _ _ _ _ => runs_of_cycles_ne_nil
    refused := fun console hmem fault left hfaulted =>
      Console.takesTyped_of_faulted (Console.wellFormed_of_mem_attempted wf hmem) hfaulted }
  · obtain ⟨key, hkey⟩ := own.exists_key digit
    exact ⟨key, hkey, isDown_after wf own hempty hkey _⟩
  · obtain ⟨hsetup, hkeys, -⟩ := after_fixed earlier window
    have hhandle := keypad_handle (wellFormed_after wf earlier) (hkeys.symm ▸ own) event
    rw [hkeys, hsetup, hdigit] at hhandle
    simp only [hhandle]
    split <;> exact ⟨rfl, rfl⟩

/-- A program that awaits a key, in a window with the COSMAC keys.  The wait begins between the
strokes of Q and W, so it drops the first of the two; then Q goes up again. -/
theorem mirrors_of_play_two_keys :
    let machine := (Machine.powerOn.load [0xF3, 0x0A]).getD Machine.powerOn
    let window := opened { program := "keys.ch8", cosmacKeys := true } {} machine {}
    let events : List Event :=
      [.press "Q", .press "F2", .press "W", .press "T", .release "Q", .press "SPACE", .draw]
    let keypad := (play events window).1.paced.console.keypad
    window.IsNew ∧ keypad.isDown 4 = false ∧ keypad.isDown 5 = true ∧ keypad.typed = some 5 := by
  intro machine window events keypad
  have new : window.IsNew :=
    ⟨{ program := "keys.ch8", cosmacKeys := true }, {}, {}, [0xF3, 0x0A], machine, rfl, rfl⟩
  have mirrors : Mirrors window (played events window) (play events window).1 :=
    mirrors_of_play new events
  have hplayed : played events window = events := by decide +kernel
  have hkeys : window.keys.find? "Q" = some 4 ∧ window.keys.find? "W" = some 5 := by
    decide +kernel
  rw [hplayed] at mirrors
  obtain ⟨q, hq, hfour⟩ := mirrors.held 4
  obtain rfl := (hq "Q").mp hkeys.1
  obtain ⟨w, hw, hfive⟩ := mirrors.held 5
  obtain rfl := (hw "W").mp hkeys.2
  refine ⟨new, Bool.eq_false_iff.mpr fun h => ?_, hfive.mpr (by decide +kernel), ?_⟩
  · exact absurd (hfour.mp h) (by decide +kernel)
  · refine (mirrors.typed 5).mpr ⟨5, rfl, [.press "Q", .press "F2"], "W", _, rfl, hkeys.2, ?_, ?_⟩
    · have hfree : window.keys.find? "T" = none ∧ window.keys.find? "SPACE" = none := by
        decide +kernel
      simpa using hfree
    · decide +kernel

end Window

end ChipEight
