import ChipEight.Journal
import ChipEight.Machine.Basic
import ChipEight.Storage.FileTree
import ChipEight.Text.Quoted

/-!
# Program files

A program is read from a file and refused if it would not fit into memory.

* `ProgramFile.Failure` — why there is no program, with its text.
* `ProgramFile.announcement` — the record that a program is about to be read.
* **`ProgramFile.read`** — the program at a path.
-/

namespace ChipEight.ProgramFile

open Numeral

/-- Why a program could not be had. -/
inductive Failure where
  /-- The path holds a character that no path can hold. -/
  | embeddedNull
  | unreadable (error : ReadError) (path : Path)
  | tooLarge (path : Path) (size : Nat)
  deriving DecidableEq

/-- The text of a failure. -/
def Failure.message : Failure → String
  | .embeddedNull => "embedded null byte"
  | .unreadable error path =>
      "[Errno " ++ decimal error.number ++ "] " ++ error.text ++ ": " ++ Quoted.quote path.text
  | .tooLarge path size =>
      path.text ++ " is " ++ decimal size ++ " bytes; a CHIP-8 program can be at most "
        ++ decimal programLimit ++ " bytes"

/-- A way to get at the bytes of files. -/
abbrev Reader := Path → Except ReadError (List UInt8)

/-- The text that announces the reading of a program. -/
def announcement (path : Path) : String :=
  "Loading ROM: " ++ path.text

/-- **The program at a path.** -/
def read (reader : Reader) (path : Path) : Except Failure (List UInt8) :=
  if path.text.contains '\x00' then .error .embeddedNull
  else
    match reader path with
    | .error error => .error (.unreadable error path)
    | .ok bytes =>
      if bytes.length ≤ programLimit then .ok bytes else .error (.tooLarge path bytes.length)

end ChipEight.ProgramFile
