import ChipEight.Proofs.WindowRuns
import ChipEight.Window.View
import Mathlib.Data.List.Induction

/-!
# The picture is the screen

The picture in the window is made from the screen by turning it upside down and enlarging it, and
nothing of the screen is lost by that.  It is made anew at the end of every event on which the
screen can change, so it never lags behind.

* `Image.pixel?`, `Image.Shows` — what a picture has to look like for a screen.
* **`Image.shows_ofScreen`** — the picture of a screen looks like that.
* `Image.toScreen`, `Image.Shows.toScreen_eq` — the screen read off its picture.
* `Window.Event.presents`, `Window.shown_of_presents`, `Window.shown_of_not_presents` — the events
  on which a picture is presented; on no other does the screen change.
* **`Window.image_of_play`** — the picture in a window, at any moment of any run.
-/

namespace ChipEight

/-! ## The picture of a screen -/

namespace Image

variable {image : Image} {screen : Screen}

/-- The colour at a place of a picture, counted from the bottom left corner. -/
def pixel? (image : Image) (x y : Nat) : Option Colour :=
  image[y]?.bind (·[x]?)

/-- **The picture shows the screen:** 320 rows of 640 pixels, white in the squares of the pixels
that are on and black elsewhere, with no opacity missing. -/
structure Shows (image : Image) (screen : Screen) : Prop where
  height : image.length = 320
  width : ∀ row ∈ image, row.length = 640
  pixel : ∀ x < 640, ∀ y < 320, image.pixel? x y =
    some (if screen.isLit (x / 10) (31 - y / 10) then ⟨255, 255, 255, 255⟩ else ⟨0, 0, 0, 255⟩)

/-- Stretching makes a list ten times as long. -/
lemma length_stretch {α : Type} (list : List α) : (stretch list).length = scale * list.length := by
  induction list with
  | nil => rfl
  | cons a rest ih =>
      rw [stretch, List.flatMap_cons, ← stretch, List.length_append, List.length_replicate, ih,
        List.length_cons, Nat.mul_succ, Nat.add_comm]

/-- Stretching adds nothing that was not there. -/
lemma mem_stretch {α : Type} {a : α} {list : List α} : a ∈ stretch list ↔ a ∈ list := by
  simp [stretch, scale]

/-- A row of the screen, counted from the bottom. -/
lemma getElem?_reverse_rows (screen : Screen) {row : Nat} (h : row < Screen.height) :
    screen.rows.reverse[row]? =
      some ((List.range Screen.width).map fun column => screen.isLit column (31 - row)) := by
  have hlength : screen.rows.length = Screen.height := by simp [Screen.rows]
  rw [List.getElem?_reverse (hlength ▸ h), hlength, Screen.rows, List.getElem?_map,
    List.getElem?_range (by omega)]
  rfl

/-- **The picture of a screen shows it.** -/
theorem shows_ofScreen (screen : Screen) : Shows (ofScreen screen) screen where
  height := by simp [ofScreen, length_stretch, Screen.rows, scale, Screen.height]
  width := by
    intro row hrow
    obtain ⟨line, hline, rfl⟩ := List.mem_map.mp (mem_stretch.mp hrow)
    obtain ⟨number, -, rfl⟩ := List.mem_map.mp (List.mem_reverse.mp hline)
    simp [length_stretch, scale, Screen.width]
  pixel := by
    intro x hx y hy
    have hrow : y / scale < Screen.height := Nat.div_lt_of_lt_mul hy
    have hcolumn : x / scale < Screen.width := Nat.div_lt_of_lt_mul hx
    rw [pixel?, ofScreen, getElem?_stretch, List.getElem?_map, getElem?_reverse_rows screen hrow,
      Option.map_some, Option.bind_some, getElem?_stretch, List.getElem?_map, List.getElem?_map,
      List.getElem?_range hcolumn]
    rfl

/-- The screen that is read off a picture, from one corner of each square. -/
def toScreen (image : Image) : Screen :=
  Vector.ofFn fun place : Fin 2048 =>
    image.pixel? (place % Screen.width * scale) ((31 - place / Screen.width) * scale) =
      some .white

/-- Each pixel of the screen is where its column and its row say. -/
lemma isLit_div_mod (screen : Screen) {place : Nat} (h : place < 2048) :
    screen.isLit (place % Screen.width) (place / Screen.width) = screen[place] := by
  have hcell : Screen.cell (place % Screen.width) (place / Screen.width) = ⟨place, h⟩ :=
    Screen.cell_mod_div ⟨place, h⟩
  simp only [Screen.isLit, hcell]
  rfl

/-- **A screen is read off any picture that shows it.** -/
theorem Shows.toScreen_eq (shows : Shows image screen) : image.toScreen = screen := by
  refine Vector.ext fun place hplace => ?_
  have hx : place % Screen.width * scale < 640 := by
    simp only [Screen.width, scale]
    omega
  have hy : (31 - place / Screen.width) * scale < 320 := by
    simp only [Screen.width, scale]
    omega
  have hrow : 31 - (31 - place / Screen.width) = place / Screen.width := by
    simp only [Screen.width]
    omega
  have hpixel := shows.pixel _ hx _ hy
  rw [Nat.mul_div_cancel _ (by decide), Nat.mul_div_cancel _ (by decide), hrow,
    isLit_div_mod screen hplace] at hpixel
  rw [toScreen, Vector.getElem_ofFn, hpixel]
  change decide (_ = _) = screen[place]
  cases screen[place] <;> rfl

end Image

namespace Window

variable {window : Window} {event : Event}

/-! ## The picture in a window -/

/-- Whether a picture is presented on an event. -/
def Event.presents (event : Event) : Bool :=
  event.command?.any Pacer.Command.presents

/-- **A picture that is presented is that of the screen as it is at the end of the event.** -/
theorem shown_of_presents (wf : window.paced.console.WellFormed) (h : event.presents = true) :
    (window.handle event).1.shown = some (window.handle event).1.paced.console.machine.screen := by
  obtain ⟨command, hcommand, hpresents⟩ : ∃ command, event.command? = some command ∧
      command.presents = true := by simpa [Event.presents, Option.any_eq_true] using h
  by_cases runs : command = .runFrame ∨ command = .stepOnce
  · obtain ⟨-, hdone⟩ := handle_run wf hcommand runs
    simp only [hdone, foldl_receive_paced]
  · rw [handle_of_command hcommand]
    cases command
    case runFrame | stepOnce => simp at runs
    case skip => rfl
    all_goals cases hpresents

/-- **Where none is presented, the screen does not change either.** -/
theorem shown_of_not_presents (h : event.presents = false) (window : Window) :
    (window.handle event).1.shown = window.shown ∧
      (window.handle event).1.paced.console.machine.screen =
        window.paced.console.machine.screen := by
  cases hcommand : event.command? with
  | none =>
      exact ⟨(handle_spares hcommand window).shown_eq,
        congrArg Machine.screen (machine_of_no_command hcommand window)⟩
  | some command =>
      have hpresents : command.presents = false := by
        rw [← h, Event.presents, hcommand]
        rfl
      rw [handle_of_command hcommand]
      cases command
      case runFrame | stepOnce | skip => cases hpresents
      case togglePause =>
        simp only [pace, Paced.perform]
        split <;> exact ⟨rfl, rfl⟩
      all_goals exact ⟨rfl, rfl⟩

/-- The picture in a window that has shown none before is the last one that was presented, which is
that of the screen now. -/
lemma shown_after (wf : window.paced.console.WellFormed) (hnone : window.shown = none)
    (events : List Event) :
    (window.after events).shown =
      if events.any Event.presents then
        some (window.after events).paced.console.machine.screen
      else none := by
  -- from the end: the last event presents the screen as it is, or it changes neither of the two
  induction events using List.reverseRecOn with
  | nil => exact hnone
  | append_singleton events event ih =>
      rw [after_append, after_cons, after_nil, List.any_append, List.any_cons, List.any_nil,
        Bool.or_false]
      cases h : event.presents with
      | true =>
          rw [Bool.or_true, if_pos rfl]
          exact shown_of_presents (wellFormed_after wf events) h
      | false =>
          obtain ⟨hshown, hscreen⟩ := shown_of_not_presents h (window.after events)
          rw [Bool.or_false, hshown, hscreen, ih]

/-- **The picture in a window is the screen of its machine.**  Let any events happen to a window
that has just opened.  As soon as a picture was presented, which happens on frames, single steps and
skips, the picture shows the screen as it is now, whatever has happened since, and the screen can be
read off it.  Before that there is nothing. -/
theorem image_of_play (new : window.IsNew) (events : List Event) :
    let now := (play events window).1
    let screen := now.paced.console.machine.screen
    (now.shown.isSome = true ↔ ∃ event ∈ played events window, event.presents = true) ∧
      (now.shown.isSome = true → now.image.Shows screen ∧ now.image.toScreen = screen) ∧
      (now.shown = none → now.image = Image.empty) := by
  have hnone : window.shown = none := by
    obtain ⟨_, _, _, _, _, -, rfl⟩ := new
    rfl
  have hshown := shown_after new.wellFormed hnone (played events window)
  rw [← play_eq] at hshown
  simp only [image, hshown, ← List.any_eq_true]
  cases (played events window).any Event.presents with
  | true =>
      have shows := Image.shows_ofScreen (play events window).1.paced.console.machine.screen
      simp [shows, shows.toScreen_eq]
  | false => simp

/-- A program that draws a sprite in the corner, the digit zero.  Of its top row four pixels are on,
of the next one just the first and the last.  A key and a drawing of the window change nothing about
the picture. -/
theorem image_of_play_digit :
    let machine := (Machine.powerOn.load [0xD0, 0x05]).getD Machine.powerOn
    let window := opened { program := "digit.ch8" } {} machine {}
    let now := (play [.tick, .press "1", .draw] window).1
    window.IsNew ∧ now.image.pixel? 39 310 = some .white ∧ now.image.pixel? 10 309 = some .black ∧
      now.image.toScreen = now.paced.console.machine.screen := by
  intro machine window now
  have new : window.IsNew :=
    ⟨{ program := "digit.ch8" }, {}, {}, [0xD0, 0x05], machine, rfl, rfl⟩
  obtain ⟨hpresented, himage, -⟩ := image_of_play new [.tick, .press "1", .draw]
  have hframe : ∃ event ∈ played [.tick, .press "1", .draw] window, event.presents = true := by
    decide +kernel
  obtain ⟨shows, hscreen⟩ := himage (hpresented.mpr hframe)
  have hlit : now.paced.console.machine.screen.isLit 3 0 = true ∧
      now.paced.console.machine.screen.isLit 1 1 = false := by decide +kernel
  refine ⟨new, ?_, ?_, hscreen⟩
  · exact (shows.pixel 39 (by decide) 310 (by decide)).trans (by rw [hlit.1]; rfl)
  · exact (shows.pixel 10 (by decide) 309 (by decide)).trans (by rw [hlit.2]; rfl)

end Window

end ChipEight
