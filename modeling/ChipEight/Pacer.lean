import ChipEight.Journal
import ChipEight.Machine.Cycle
import ChipEight.Machine.Report

/-!
# Pacing a console

A pacer runs a console in frames.  A frame has a budget of cycles, and it ends early when a sprite
was drawn, when a key is awaited or when a cycle faults; then the picture is presented.  A fault
pauses the pacer and stays on record until the program goes on.

* `Paced` — a console with its pacer.
* `Pacer.Event` — what happens while the pacer works, in order: cycles, reports and notices of
  faults, presented pictures.
* `Paced.batch` — cycles up to a budget.
* `Pacer.Command`, **`Paced.perform`** — what a pacer can be told to do.
-/

namespace ChipEight

/-- The state of a pacer. -/
structure Pacer where
  /-- Cycles in a frame; none are run if it is not positive. -/
  budget : Int := 1
  paused : Bool := false
  /-- The last fault, until the program goes on. -/
  fault : Option Fault := none
  /-- Cycles carried out since the count was last taken. -/
  cycles : Nat := 0
  deriving DecidableEq

/-- What happens while a pacer works. -/
inductive Pacer.Event where
  /-- A cycle was carried out, or found nothing to do. -/
  | ran (flow : Flow) (trace : Option Trace)
  /-- A cycle was refused: the report of the fault, and the notice of it to whoever listens. -/
  | faulted (fault : Fault) (report : String)
  /-- A cycle could not go on. -/
  | stuck (misfit : Misfit)
  /-- The picture was presented. -/
  | presented (picture : Screen)
  deriving DecidableEq

/-- The misfit that an event tells of. -/
def Pacer.Event.misfit? : Pacer.Event → Option Misfit
  | .stuck misfit => some misfit
  | .ran _ _ | .faulted _ _ | .presented _ => none

/-- A console and its pacer. -/
structure Paced where
  console : Console := {}
  pacer : Pacer := {}
  deriving DecidableEq

/-- What a pacer can be told to do. -/
inductive Pacer.Command where
  /-- Run one frame, which is empty while paused. -/
  | runFrame
  /-- Run one cycle, paused or not. -/
  | stepOnce
  /-- Move past the instruction at the program counter without carrying it out. -/
  | skip
  | pause
  | resume
  | togglePause
  | setBudget (budget : Int)
  /-- Take the count of cycles and begin a new one. -/
  | resetCount
  deriving DecidableEq

namespace Pacer

/-- The pacer after one more cycle. -/
def count (pacer : Pacer) : Pacer :=
  { pacer with cycles := pacer.cycles + 1 }

/-- The pacer stopped by a fault. -/
def halt (pacer : Pacer) (fault : Fault) : Pacer :=
  { pacer with fault := some fault, paused := true }

/-- The pacer going on, with no fault on record. -/
def resume (pacer : Pacer) : Pacer :=
  { pacer with fault := none, paused := false }

end Pacer

namespace Paced

/-- The report that is written about a fault: its text, then the state of the machine. -/
def faultReport (fault : Fault) (machine : Machine) : String :=
  fault.message ++ "\n" ++ machine.report

/-- **Cycles up to a budget.**  A sprite, a wait, a fault or a misfit ends the batch at once; of
these only the sprite counts as a cycle. -/
def batch (setup : Setup) : Nat → Paced → Paced × List Pacer.Event
  | 0, paced => (paced, [])
  | budget + 1, paced =>
    match paced.console.step setup with
    | .faulted fault console =>
      ({ console, pacer := paced.pacer.halt fault },
        [.faulted fault (faultReport fault console.machine)])
    | .stuck misfit console => ({ paced with console }, [.stuck misfit])
    | .ran .waiting trace console => ({ paced with console }, [.ran .waiting trace])
    | .ran .drew trace console => ({ console, pacer := paced.pacer.count }, [.ran .drew trace])
    | .ran flow trace console =>
      let more := batch setup budget { console, pacer := paced.pacer.count }
      (more.1, .ran flow trace :: more.2)

/-- What was done, and then the picture as it is.  After a misfit there is none. -/
def present (done : Paced × List Pacer.Event) : Paced × List Pacer.Event :=
  if (done.2.findSome? Pacer.Event.misfit?).isSome then done
  else (done.1, done.2 ++ [.presented done.1.console.machine.screen])

/-- The instruction at the program counter is passed over.  This ends a wait and takes the fault off
the record, and it leaves the pacer paused. -/
def skip (paced : Paced) : Paced where
  console := { paced.console with
    machine := { paced.console.machine.advance with activity := .running } }
  pacer := { paced.pacer with fault := none, paused := true }

/-- **What a pacer does when told.** -/
def perform (setup : Setup) (command : Pacer.Command) (paced : Paced) :
    Paced × List Pacer.Event :=
  match command with
  | .runFrame =>
    present (if paced.pacer.paused then (paced, []) else batch setup paced.pacer.budget.toNat paced)
  | .stepOnce => present (batch setup 1 paced)
  | .skip => present (paced.skip, [])
  | .pause => ({ paced with pacer := { paced.pacer with paused := true } }, [])
  | .resume => ({ paced with pacer := paced.pacer.resume }, [])
  | .togglePause =>
    if paced.pacer.paused then ({ paced with pacer := paced.pacer.resume }, [])
    else ({ paced with pacer := { paced.pacer with paused := true } }, [])
  | .setBudget budget => ({ paced with pacer := { paced.pacer with budget } }, [])
  | .resetCount => ({ paced with pacer := { paced.pacer with cycles := 0 } }, [])

end Paced

/-- The records that an event leaves in a journal: a trace entry, or the report of a fault. -/
def Pacer.Event.records (journal : Journal) : Pacer.Event → List Record
  | .ran _ trace => (trace.map journal.trace).getD []
  | .faulted _ report => journal.note .error report
  | .stuck _ | .presented _ => []

end ChipEight
