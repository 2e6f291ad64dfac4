import ChipEight.Options.Usage
import ChipEight.Storage.ProgramFile
import ChipEight.Window.Basic

/-!
# Launching

From a command line to an open window: the options are read, the program is fetched from its file,
and a machine is switched on with it.

* `Launch` — what a command line leads to.
* `Launch.exitStatus` — the status with which it ends, unless a window opens.
* **`Launch.ofArguments`** — the way from the one to the other.
-/

namespace ChipEight

/-- The record as it is printed, which may take several lines. -/
def Record.lines (record : Record) : List String :=
  ("[" ++ record.level.name ++ "]:  " ++ record.text).splitOn "\n"

/-- Why a launch breaks off without an exit status. -/
inductive Launch.Breakage where
  /-- No number of cycles was left to compare with the least one. -/
  | noCycles
  /-- The path of the program holds a character that no path can hold. -/
  | embeddedNull
  /-- The machine has no room for the program. -/
  | programTooLarge (size : Nat)
  deriving DecidableEq

/-- The text of a breakage. -/
def Launch.Breakage.message : Launch.Breakage → String
  | .noCycles => "there is no number of cycles"
  | .embeddedNull => ProgramFile.Failure.embeddedNull.message
  | .programTooLarge size => Machine.tooLargeText size

/-- What a command line leads to. -/
inductive Launch where
  /-- The explanation of the command line. -/
  | explained
  /-- A complaint about the command line. -/
  | refused (error : UsageError)
  /-- A program that could not be had. -/
  | failed (failure : ProgramFile.Failure) (records : List Record)
  /-- A launch that broke off. -/
  | broken (breakage : Launch.Breakage) (records : List Record)
  /-- A window. -/
  | opened (window : Window) (records : List Record)

namespace Launch

/-- The status with which a launch ends that opens no window; none if there is a window or if the
launch breaks. -/
def exitStatus : Launch → Option Nat
  | .explained => some 0
  | .refused _ => some 2
  | .failed _ _ => some 2
  | .broken _ _ => none
  | .opened _ _ => none

/-- The journal that a launch begins with. -/
def journal (logs : Bool) : Journal :=
  Journal.setTracing { threshold := if logs then .debug else .info } logs

/-- The window for options that were accepted, if the program can be had. -/
def openWindow (reader : ProgramFile.Reader) (random : Nat → UInt8) (options : Options) : Launch :=
  let journal := journal options.logs
  let path := Path.parse options.program
  let announced := journal.note .info (ProgramFile.announcement path)
  match ProgramFile.read reader path with
  | .error .embeddedNull => .broken .embeddedNull announced
  | .error failure =>
    .failed failure
      (announced ++ journal.note .error ("Failed to load ROM: " ++ failure.message))
  | .ok program =>
    match Machine.powerOn.load program with
    | none => .broken (.programTooLarge program.length) announced
    | some machine =>
      .opened (Window.opened options { dialect := options.dialect, random } machine journal)
        (announced ++ journal.trace (.loaded program.length))

/-- **What a command line leads to,** with a way to read files and a source of random bytes. -/
def ofArguments (reader : ProgramFile.Reader) (random : Nat → UInt8) (arguments : List String) :
    Launch :=
  match Options.parse arguments with
  | .help => .explained
  | .refused error => .refused error
  | .undecided => .broken .noCycles []
  | .accepted options => openWindow reader random options

end Launch

end ChipEight
