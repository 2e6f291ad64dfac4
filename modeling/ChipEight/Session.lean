import ChipEight.Journal
import ChipEight.Machine.Report
import ChipEight.Pacer

/-!
# Sessions

A console under direct control: a host that steps it, loads programs, presses keys, looks at it,
writes its state and switches the trace, in any order.  A session may have a pacer, whose presented
pictures and notices of faults go to an audience.

* `Session` — everything that one operation hands on to the next.
* `Session.Operation` — what a host can do, as data.
* **`Session.perform`** — what an operation does: its reply, the records it leaves in the journal,
  and the session after it.
* `Session.performAll` — operations one after another.
-/

namespace ChipEight

/-- Who receives what a pacer gives out. -/
structure Audience where
  /-- Whether notices of faults are received. -/
  listens : Bool := true
  /-- How many pictures were presented. -/
  presented : Nat := 0
  /-- The last of them. -/
  shown : Screen := Screen.blank
  /-- The faults of which notice was received, in order. -/
  reported : List Fault := []
  deriving DecidableEq

/-- The audience after an event. -/
def Audience.receive (audience : Audience) : Pacer.Event → Audience
  | .ran _ _ | .stuck _ => audience
  | .faulted fault _ =>
    if audience.listens then { audience with reported := audience.reported ++ [fault] }
    else audience
  | .presented picture =>
    { audience with presented := audience.presented + 1, shown := picture }

/-- A console under direct control. -/
structure Session where
  setup : Setup := {}
  console : Console := {}
  journal : Journal := {}
  pacer : Option Pacer := none
  audience : Audience := {}

namespace Session

/-- What a host can do.  Keys are given by number; below zero it counts from the last key. -/
inductive Operation where
  /-- One cycle. -/
  | step
  /-- Cycles up to a number, fewer if one of them is refused. -/
  | run (count : Nat)
  | load (program : List UInt8)
  /-- Switch the machine off and on; the keypad is not part of it. -/
  | reset
  | fetch
  | isWaiting
  | picture
  | report
  | panel
  | instruction
  | write (pieces : List Machine.Write)
  | press (key : Int)
  | release (key : Int)
  | clearKeys
  | isDown (key : Int)
  | down
  | typed
  | setTracing (enabled : Bool)
  | toggleTracing
  /-- Tell the pacer something; without a pacer nothing happens. -/
  | pace (command : Pacer.Command)

/-- Why an operation was refused. -/
inductive Refusal where
  | fault (fault : Fault)
  | misfit (misfit : Misfit)
  | programTooLarge (size : Nat)
  | noSuchKey (key : Int)

/-- What a host is told. -/
inductive Reply where
  | nothing
  | flow (flow : Flow)
  /-- The flows of the cycles that were carried out, and why the one after them was refused. -/
  | flows (flows : List Flow) (refusal : Option Refusal)
  | word (word : Word)
  | truth (value : Bool)
  | picture (rows : List (List Bool))
  | lines (lines : List String)
  | instruction (word : Option Word) (text : String)
  | keys (keys : List (Fin 16))
  | typed (number : Option Int)

/-- What became of an operation. -/
structure Done where
  reply : Except Refusal Reply
  records : List Record := []
  session : Session

/-- The session with its machine replaced. -/
def withMachine (session : Session) (machine : Machine) : Session :=
  { session with console := { session.console with machine } }

/-- The session with its keypad replaced. -/
def withKeypad (session : Session) (keypad : Keypad) : Session :=
  { session with console := { session.console with keypad } }

/-- An operation that only looks. -/
def look (session : Session) (reply : Reply) : Done :=
  { reply := .ok reply, session }

/-- An operation that looks at the word at the program counter. -/
def lookAtWord (session : Session) (reply : Reply) : Done :=
  if session.console.machine.isLost then { reply := .error (.misfit .noPlace), session }
  else session.look reply

/-- An operation on a key; a number that names no key is refused. -/
def onKey (session : Session) (key : Int) (act : Fin 16 → Reply × Session) : Done :=
  match Numbering.place? 16 key with
  | some place =>
    let done := act place
    { reply := .ok done.1, session := done.2 }
  | none => { reply := .error (.noSuchKey key), session }

/-- One cycle. -/
def step (session : Session) : Done :=
  match session.console.step session.setup with
  | .ran flow trace console =>
    { reply := .ok (.flow flow)
      records := (trace.map session.journal.trace).getD []
      session := { session with console } }
  | .faulted fault console =>
    { reply := .error (.fault fault), session := { session with console } }
  | .stuck misfit console =>
    { reply := .error (.misfit misfit), session := { session with console } }

/-- Single cycles up to a number, ending with the first that is refused. -/
def steps : Nat → Session → List Done
  | 0, _ => []
  | count + 1, session =>
    let done := session.step
    match done.reply with
    | .ok _ => done :: steps count done.session
    | .error _ => [done]

/-- Cycles that were carried out in a row. -/
structure Run where
  flows : List Flow := []
  /-- Why the cycle after them was refused, if that ended them. -/
  refusal : Option Refusal := none
  records : List Record := []
  /-- The console after them. -/
  console : Console

/-- Cycles up to a number, ending with the first that is refused. -/
def cycles (setup : Setup) (journal : Journal) : Nat → Console → Run
  | 0, console => { console }
  | count + 1, console =>
    match console.step setup with
    | .ran flow trace console =>
      let rest := cycles setup journal count console
      { rest with
        flows := flow :: rest.flows
        records := (trace.map journal.trace).getD [] ++ rest.records }
    | .faulted fault console => { refusal := some (.fault fault), console }
    | .stuck misfit console => { refusal := some (.misfit misfit), console }

/-- Cycles up to a number, as one operation. -/
def run (count : Nat) (session : Session) : Done :=
  let run := cycles session.setup session.journal count session.console
  { reply := .ok (.flows run.flows run.refusal)
    records := run.records
    session := { session with console := run.console } }

/-- The pacer does as told; its events go to the journal and to the audience. -/
def pace (session : Session) (command : Pacer.Command) : Done :=
  match session.pacer with
  | none => session.look .nothing
  | some pacer =>
    let done := Paced.perform session.setup command { console := session.console, pacer }
    let reply : Reply := match command with
      | .togglePause => .truth done.1.pacer.paused
      | _ => .nothing
    { reply := match done.2.findSome? Pacer.Event.misfit? with
        | some misfit => .error (.misfit misfit)
        | none => .ok reply
      records := done.2.flatMap (Pacer.Event.records session.journal)
      session := { session with
        console := done.1.console
        pacer := some done.1.pacer
        audience := done.2.foldl Audience.receive session.audience } }

/-- **What an operation does.** -/
def perform (operation : Operation) (session : Session) : Done :=
  let console := session.console
  let machine := console.machine
  match operation with
  | .step => session.step
  | .run count => session.run count
  | .load program =>
    match machine.load program with
    | some machine =>
      { reply := .ok .nothing
        records := session.journal.trace (.loaded program.length)
        session := session.withMachine machine }
    | none => { reply := .error (.programTooLarge program.length), session }
  | .reset => { reply := .ok .nothing, session := session.withMachine Machine.powerOn }
  | .fetch =>
    match machine.word? with
    | some word => session.look (.word word)
    | none =>
      if machine.isLost then { reply := .error (.misfit .noPlace), session }
      else { reply := .error (.fault (.outsideMemory machine.pc)), session }
  | .isWaiting => session.look (.truth machine.isWaiting)
  | .picture => session.look (.picture machine.screen.rows)
  | .report => session.lookAtWord (.lines machine.reportLines)
  | .panel => session.lookAtWord (.lines machine.panelLines)
  | .instruction => session.lookAtWord (.instruction machine.word? machine.instructionText)
  | .write pieces =>
    let written := machine.writeAll pieces
    { reply := match written.2 with
        | some misfit => .error (.misfit misfit)
        | none => .ok .nothing
      session := session.withMachine written.1 }
  | .press number =>
    session.onKey number fun key =>
      (.nothing, session.withKeypad (console.keypad.press key number))
  | .release key =>
    session.onKey key fun key => (.nothing, session.withKeypad (console.keypad.release key))
  | .clearKeys =>
    { reply := .ok .nothing, session := session.withKeypad console.keypad.clear }
  | .isDown key => session.onKey key fun key => (.truth (console.keypad.isDown key), session)
  | .down => session.look (.keys console.keypad.down)
  | .typed =>
    let taken := console.keypad.takeTyped
    { reply := .ok (.typed taken.1), session := session.withKeypad taken.2 }
  | .setTracing enabled =>
    { reply := .ok .nothing
      session := { session with journal := session.journal.setTracing enabled } }
  | .toggleTracing =>
    let toggled := session.journal.toggleTracing
    { reply := .ok (.truth toggled.1.tracing)
      records := toggled.2
      session := { session with journal := toggled.1 } }
  | .pace command => session.pace command

/-- **Operations one after another,** with what became of each. -/
def performAll : List Operation → Session → List Done × Session
  | [], session => ([], session)
  | operation :: rest, session =>
    let done := session.perform operation
    let more := performAll rest done.session
    (done :: more.1, more.2)

end Session

end ChipEight
