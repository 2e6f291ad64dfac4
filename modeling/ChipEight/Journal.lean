import ChipEight.Machine.Trace

/-!
# The journal

Records of different weight, of which only those at or above a threshold are kept.  Tracing is a
switch of its own: it lets the entries of the machine through to the journal, and turning it on
lowers the threshold so that they are kept.  Turning it off leaves the threshold where it is.

* `Journal.setTracing` — the switch.
* `Journal.note` — a record, if it weighs enough.
* `Journal.trace` — the record of a trace entry, if the switch is on.
* `Journal.toggleTracing` — the switch turned over, with the record that says so.
-/

namespace ChipEight

/-- The weight of a record, in rising order. -/
inductive Level where
  | debug
  | info
  | warning
  | error
  deriving DecidableEq

namespace Level

/-- The place of a weight in the order. -/
def rank : Level → Nat
  | .debug => 0
  | .info => 1
  | .warning => 2
  | .error => 3

/-- The name under which a weight is printed. -/
def name : Level → String
  | .debug => "DEBUG"
  | .info => "INFO"
  | .warning => "WARNING"
  | .error => "ERROR"

end Level

/-- A record of the journal. -/
structure Record where
  level : Level
  text : String
  deriving DecidableEq

/-- The state of the journal: the switch and the threshold. -/
structure Journal where
  tracing : Bool := false
  threshold : Level := .warning
  deriving DecidableEq

namespace Journal

/-- The record that is kept, if any, of a text of some weight. -/
def note (journal : Journal) (level : Level) (text : String) : List Record :=
  if journal.threshold.rank ≤ level.rank then [{ level, text }] else []

/-- The record that is kept, if any, of a trace entry. -/
def trace (journal : Journal) (entry : Trace) : List Record :=
  if journal.tracing then journal.note .debug entry.text else []

/-- The switch set to a position. -/
def setTracing (journal : Journal) (enabled : Bool) : Journal where
  tracing := enabled
  threshold := if enabled then .debug else journal.threshold

/-- The switch turned over, and the record of its new position. -/
def toggleTracing (journal : Journal) : Journal × List Record :=
  let journal := journal.setTracing !journal.tracing
  (journal, journal.note .info ("logsOn: " ++ if journal.tracing then "True" else "False"))

end Journal

end ChipEight
