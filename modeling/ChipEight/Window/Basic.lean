import ChipEight.Clock
import ChipEight.Keypad.Layout
import ChipEight.Options.Basic
import ChipEight.Pacer
import ChipEight.Window.Image

/-!
# The window

A window shows the picture and a panel, turns host keys into keys of the keypad or into commands,
and paces the console.  Outside debugging a fault closes it.

* `Window` — the state of a window.
* `Window.Event` — what happens to it.
* **`Window.handle`** — what an event does, with the records it leaves in the journal.
* `Window.play` — events one after another, as long as the window is open.
-/

namespace ChipEight

open Numeral

/-- The state of a window. -/
structure Window where
  setup : Setup := {}
  paced : Paced := {}
  journal : Journal := {}
  /-- The digits of host keys, by name. -/
  keys : Table String (Fin 16) := []
  /-- Whether the window stays open after a fault. -/
  debug : Bool := false
  /-- How often the window was closed. -/
  closings : Nat := 0
  exitStatus : Nat := 0
  /-- The picture presented last. -/
  shown : Option Screen := none
  /-- Drawings of the window since the rates were last taken. -/
  drawings : Nat := 0
  /-- The time since the window opened. -/
  clock : Span := .quarters 0
  /-- When the rates were last taken. -/
  ratesTaken : Span := .quarters 0
  drawingsText : String := "FPS: 0"
  cyclesText : String := "Cycles/s: 0"
  stateText : String := ""
  panel : List String := List.replicate 11 ""

/-- What happens to a window. -/
inductive Window.Event where
  | press (key : String)
  | release (key : String)
  /-- It is time for a frame. -/
  | tick
  /-- Quarters of a second go by, and then it is time for the rates. -/
  | wait (quarters : Int)
  /-- The window is to be drawn. -/
  | draw
  deriving DecidableEq

namespace Window

/-! ## Opening and closing -/

/-- The key map of a layout when keys are known by their names alone. -/
def keysOf (layout : Layout (Fin 16)) : Table String (Fin 16) :=
  match layout.keymap some with
  | .ok keys => keys
  | .error _ => []

/-- A window that has just opened. -/
def opened (options : Options) (setup : Setup) (machine : Machine) (journal : Journal) :
    Window where
  setup := setup
  paced := {
    console := { machine }
    pacer := { budget := options.cycles, paused := options.debug } }
  journal := journal
  keys := keysOf (if options.cosmacKeys then Layout.cosmac else Layout.hexadecimal)
  debug := options.debug

/-- Whether the window is closed. -/
def isClosed (window : Window) : Bool :=
  window.closings ≠ 0

/-- The window closed once more. -/
def close (window : Window) : Window :=
  { window with closings := window.closings + 1 }

/-! ## Pacing -/

/-- The window after an event of its pacer: a picture is shown, and the notice of a fault closes the
window unless it is used for debugging. -/
def receive (window : Window) : Pacer.Event → Window
  | .ran _ _ | .stuck _ => window
  | .faulted _ _ => if window.debug then window else { window.close with exitStatus := 1 }
  | .presented picture => { window with shown := some picture }

/-- The pacer does as told. -/
def pace (window : Window) (command : Pacer.Command) : Window × List Record :=
  let done := Paced.perform window.setup command window.paced
  (done.2.foldl receive { window with paced := done.1 },
    done.2.flatMap (Pacer.Event.records window.journal))

/-! ## Keys -/

/-- The window with another keypad. -/
def withKeypad (window : Window) (keypad : Keypad) : Window :=
  { window with paced := { window.paced with
      console := { window.paced.console with keypad } } }

/-- A host key goes down.  Five keys are commands; others may bear a digit. -/
def press (window : Window) (key : String) : Window × List Record :=
  if key = "ESCAPE" then (window.close, [])
  else if key = "F1" then
    let toggled := window.journal.toggleTracing
    ({ window with journal := toggled.1 }, toggled.2)
  else if key = "SPACE" then window.pace .togglePause
  else if key = "F2" then window.pace .stepOnce
  else if key = "F3" then window.pace .skip
  else
    match window.keys.find? key with
    | some digit => (window.withKeypad (window.paced.console.keypad.press digit), [])
    | none => (window, [])

/-- A host key goes up. -/
def release (window : Window) (key : String) : Window :=
  match window.keys.find? key with
  | some digit => window.withKeypad (window.paced.console.keypad.release digit)
  | none => window

/-! ## Rates -/

/-- The rates are taken, unless less than a second has passed since the last time. -/
def takeRates (window : Window) : Window :=
  match window.clock.since window.ratesTaken with
  | none => window
  | some elapsed =>
    if elapsed.isFullSecond then
      { window with
        drawingsText := "FPS: " ++ elapsed.rate window.drawings
        cyclesText := "Cycles/s: " ++ decimal window.paced.pacer.cycles
        drawings := 0
        paced := (Paced.perform window.setup .resetCount window.paced).1
        ratesTaken := window.clock }
    else window

/-! ## Drawing -/

/-- The state of the program in a few words. -/
def stateNow (window : Window) : String :=
  match window.paced.pacer.fault with
  | some fault => "FAULT: " ++ fault.kind.name
  | none =>
    if window.paced.pacer.paused then "Paused"
    else if window.paced.console.machine.isWaiting then "Waiting for key"
    else "Running"

/-- The texts brought up to date, and one more drawing counted. -/
def drawn (window : Window) : Window :=
  { window with
    stateText := window.stateNow
    panel := window.paced.console.machine.panelLines
    drawings := window.drawings + 1 }

/-! ## Events -/

/-- **What an event does.** -/
def handle (event : Event) (window : Window) : Window × List Record :=
  match event with
  | .press key => window.press key
  | .release key => (window.release key, [])
  | .tick => window.pace .runFrame
  | .wait quarters => (takeRates { window with clock := window.clock.advance quarters }, [])
  | .draw => (window.drawn, [])

/-- **Events one after another.**  Once the window is closed nothing happens to it. -/
def play : List Event → Window → Window × List Record
  | [], window => (window, [])
  | event :: rest, window =>
    if window.isClosed then (window, [])
    else
      let done := window.handle event
      let more := play rest done.1
      (more.1, done.2 ++ more.2)

end Window

end ChipEight
