import ChipEight.Launch
import ChipEight.Window.Script
import ChipEight.Window.View

/-!
# The program

Reads the command line and the program file and then plays the events that come in on the standard
input, one on a line, until the window is closed or there are no more.  Records of the journal go to
the standard output, and so does every drawing of the window.
-/

namespace ChipEight.Program

/-- The bytes of a file, or why there are none. -/
def readFile (path : Path) : IO (Except ReadError (List UInt8)) := do
  try
    return .ok (← IO.FS.readBinFile path.text).toList
  catch
    | .inappropriateType _ 21 _ => return .error .isADirectory
    | .inappropriateType _ _ _ => return .error .notADirectory
    | .invalidArgument _ _ _ => return .error .nameTooLong
    | _ => return .error .notFound

/-- The file that a command line names, read; a command line that names none needs none. -/
def fetch (arguments : List String) : IO ProgramFile.Reader := do
  match Options.parse arguments with
  | .accepted options =>
    let result ← readFile (Path.parse options.program)
    return fun _ => result
  | _ => return fun _ => .error .notFound

/-- A source of random bytes that differs from run to run. -/
def randomBytes : IO (Nat → UInt8) := do
  let seed ← IO.rand 0 (1 <<< 32)
  return fun k => (mixHash (hash seed) (hash k)).toUInt8

/-- Lines on the standard output. -/
def printLines (lines : List String) : IO Unit := do
  for line in lines do
    IO.println line

/-- The events of the standard input, one after another. -/
partial def playInput (window : Window) : IO Window := do
  if window.isClosed then return window
  let line ← (← IO.getStdin).getLine
  if line.isEmpty then return window
  match Window.Event.ofLine? line.trimAscii.toString with
  | none => playInput window
  | some event =>
    let (window, records) := window.handle event
    printLines (records.flatMap Record.lines)
    if event matches .draw then printLines window.drawing
    playInput window

/-- The way from the command line to the exit status. -/
def run (arguments : List String) : IO UInt32 := do
  let launch := Launch.ofArguments (← fetch arguments) (← randomBytes) arguments
  match launch with
  | .explained => printLines Usage.help
  | .refused error =>
    for line in Usage.complaint error.message do
      IO.eprintln line
  | .failed _ records => printLines (records.flatMap Record.lines)
  | .broken breakage records =>
    printLines (records.flatMap Record.lines)
    throw (IO.userError breakage.message)
  | .opened window records =>
    printLines (records.flatMap Record.lines)
    return (← playInput window).exitStatus.toUInt32
  return (launch.exitStatus.getD 0).toUInt32

end ChipEight.Program

/-- The program. -/
def main (arguments : List String) : IO UInt32 :=
  ChipEight.Program.run arguments
