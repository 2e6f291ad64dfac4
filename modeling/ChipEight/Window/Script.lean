import ChipEight.Text.Integer
import ChipEight.Window.Basic

/-!
# Scripted windows

Events of a window as lines of text: a word for the event and what belongs to it behind a blank.

* `Window.Event.ofLine?` — the event that a line stands for.
-/

namespace ChipEight.Window.Event

/-- **The event that a line stands for.** -/
def ofLine? (line : String) : Option Window.Event :=
  match line.splitOn " " with
  | ["press", key] => some (.press key)
  | ["release", key] => some (.release key)
  | ["tick"] => some .tick
  | ["wait", quarters] => (Integer.read? quarters).map .wait
  | ["draw"] => some .draw
  | _ => none

end ChipEight.Window.Event
