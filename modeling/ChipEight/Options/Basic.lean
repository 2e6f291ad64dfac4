import ChipEight.Dialect
import ChipEight.Options.Argument
import ChipEight.Text.Integer
import ChipEight.Text.Quoted

/-!
# The command line

One plain argument names the program, and switches set the options.  What cannot be used is put
aside and named in the end.

* `Options` — what a command line asks for.
* `UsageError` — why a command line is refused, with its text.
* `Options.take` — one pass over the arguments, from left to right.
* **`Options.parse`** — what a command line comes to.
-/

namespace ChipEight

/-- What a command line asks for. -/
structure Options where
  /-- The path of the program. -/
  program : String
  /-- Cycles in a frame. -/
  cycles : Int := 1
  /-- Whether the keys are arranged in a block. -/
  cosmacKeys : Bool := false
  /-- Whether the machine starts paused and stays on after a fault. -/
  debug : Bool := false
  /-- Whether the machine is traced from the start. -/
  logs : Bool := false
  dialect : Dialect := {}
  deriving DecidableEq

/-- Why a command line is refused. -/
inductive UsageError where
  | ambiguous (ambiguity : Argument.Ambiguity)
  | missingValue (switch : Switch)
  | notAnInteger (switch : Switch) (text : String)
  /-- A value was attached to a switch that takes none. -/
  | surplusValue (switch : Switch) (text : String)
  | missingProgram
  | unrecognized (texts : List String)
  | tooFewCycles
  deriving DecidableEq

/-- **The text of a refusal.** -/
def UsageError.message : UsageError → String
  | .ambiguous ambiguity =>
      "ambiguous option: " ++ ambiguity.text ++ " could match "
        ++ ", ".intercalate ambiguity.candidates
  | .missingValue switch => "argument " ++ switch.label ++ ": expected one argument"
  | .notAnInteger switch text =>
      "argument " ++ switch.label ++ ": invalid int value: " ++ Quoted.quote text
  | .surplusValue switch text =>
      "argument " ++ switch.label ++ ": ignored explicit argument " ++ Quoted.quote text
  | .missingProgram => "the following arguments are required: rom"
  | .unrecognized texts => "unrecognized arguments: " ++ " ".intercalate texts
  | .tooFewCycles => "--cycles must be at least 1"

namespace Options

/-- What is known of the options on the way through the arguments. -/
structure Draft where
  program : Option String := none
  /-- Cycles in a frame; none once a separator stood in the place of their number. -/
  cycles : Option Int := some 1
  cosmacKeys : Bool := false
  debug : Bool := false
  logs : Bool := false
  dialect : Dialect := {}
  /-- What could not be used. -/
  extras : List String := []

/-- Why the way through the arguments ends early. -/
inductive Stop where
  | help
  | refused (error : UsageError)

/-- A switch without a value is turned on. -/
def Draft.turnOn (draft : Draft) : Switch → Except Stop Draft
  | .help => .error .help
  | .cycles => .error (.refused (.missingValue .cycles))
  | .cosmacKeys => .ok { draft with cosmacKeys := true }
  | .debug => .ok { draft with debug := true }
  | .logs => .ok { draft with logs := true }
  | .noVfReset => .ok { draft with dialect := { draft.dialect with logicClearsFlag := false } }
  | .shiftVx => .ok { draft with dialect := { draft.dialect with shiftsFromY := false } }
  | .wrapSprites => .ok { draft with dialect := { draft.dialect with clipsSprites := false } }
  | .keepI => .ok { draft with dialect := { draft.dialect with advancesIndex := false } }

/-- The number of cycles is set from a text.  A separator in its place leaves no number. -/
def Draft.setCycles (draft : Draft) (text : String) : Except Stop Draft :=
  if text = "--" then .ok { draft with cycles := none }
  else
    match Integer.read? text with
    | some cycles => .ok { draft with cycles := some cycles }
    | none => .error (.refused (.notAnInteger .cycles text))

/-- A switch with a value attached. -/
def Draft.attach (draft : Draft) (switch : Switch) (value : String) : Except Stop Draft :=
  if switch.takesValue then draft.setCycles value
  else .error (.refused (.surplusValue switch value))

/-- A switch of one dash with letters behind it, each of which must be such a switch again;
otherwise the letters from there on are a surplus value.  There is only one such switch, so that it
does not matter which of them is turned on. -/
def Draft.turnOnLetters (draft : Draft) (switch : Switch) : List Char → Except Stop Draft
  | [] => .error (.refused (.surplusValue switch ""))
  | letter :: rest =>
    match Argument.spelled? ['-', letter], rest with
    | none, _ => .error (.refused (.surplusValue switch (String.ofList (letter :: rest))))
    | some last, [] => draft.turnOn last
    | some next, _ :: _ => draft.turnOnLetters next rest

/-- **One pass over the arguments.**  The first plain one names the program and takes a separator
beside it along; a switch that needs a value takes the plain argument behind it. -/
def take : List Argument → Draft → Except Stop Draft
  | [], draft => .ok draft
  | .plain text :: .separator :: rest, draft =>
    match draft.program with
    | none => take rest { draft with program := some text }
    | some _ => take rest { draft with extras := draft.extras ++ [text, "--"] }
  | .plain text :: rest, draft =>
    match draft.program with
    | none => take rest { draft with program := some text }
    | some _ => take rest { draft with extras := draft.extras ++ [text] }
  | .separator :: .plain text :: rest, draft =>
    match draft.program with
    | none => take rest { draft with program := some text }
    | some _ => take rest { draft with extras := draft.extras ++ ["--", text] }
  | .separator :: rest, draft => take rest { draft with extras := draft.extras ++ ["--"] }
  | .unknown text :: rest, draft => take rest { draft with extras := draft.extras ++ [text] }
  | .letters switch letters :: rest, draft => do
    take rest (← draft.turnOnLetters switch letters)
  | .switch switch (some value) :: rest, draft => do
    take rest (← draft.attach switch value)
  | .switch .cycles none :: .plain text :: rest, draft => do
    take rest (← draft.setCycles text)
  | .switch switch none :: rest, draft => do
    take rest (← draft.turnOn switch)

/-- What a command line comes to. -/
inductive Parsed where
  /-- The explanation is asked for. -/
  | help
  | refused (error : UsageError)
  /-- There is nothing to refuse, and no number of cycles either. -/
  | undecided
  | accepted (options : Options)

/-- The options of a complete draft. -/
def finish (draft : Draft) : Parsed :=
  match draft.program with
  | none => .refused .missingProgram
  | some program =>
    if draft.extras ≠ [] then .refused (.unrecognized draft.extras)
    else
      match draft.cycles with
      | none => .undecided
      | some cycles =>
        if cycles < 1 then .refused .tooFewCycles
        else
          .accepted
            { program
              cycles
              cosmacKeys := draft.cosmacKeys
              debug := draft.debug
              logs := draft.logs
              dialect := draft.dialect }

/-- **What a command line comes to.** -/
def parse (arguments : List String) : Parsed :=
  match Argument.classifyAll arguments with
  | .error ambiguity => .refused (.ambiguous ambiguity)
  | .ok arguments =>
    match take arguments {} with
    | .error .help => .help
    | .error (.refused error) => .refused error
    | .ok draft => finish draft

end Options

end ChipEight
