import ChipEight.Options.Switch
import ChipEight.Text.DecimalDigit

/-!
# Arguments

Before anything is done with a command line, each of its arguments is taken for a plain text, a
switch, or something that looks like a switch and is none.

* `Argument.classify` — what a single argument is.
* **`Argument.classifyAll`** — what the arguments are.  Behind the separator `--` all are plain.

A switch of two dashes may be shortened as long as only one spelling begins that way, and a value
may be attached to it behind an equals sign.  Behind a switch of one dash more letters may follow,
at once or behind an equals sign.
-/

namespace ChipEight

/-- An argument of the command line. -/
inductive Argument where
  | plain (text : String)
  /-- The first `--`. -/
  | separator
  /-- A switch with the value attached to it, if any. -/
  | switch (switch : Switch) (attached : Option String)
  /-- A switch of one dash with letters behind it. -/
  | letters (switch : Switch) (letters : List Char)
  /-- A text that looks like a switch. -/
  | unknown (text : String)
  deriving DecidableEq

/-- A shortened switch that could be more than one. -/
structure Argument.Ambiguity where
  text : String
  candidates : List String
  deriving DecidableEq

namespace Argument

/-- The parts before and behind the first equals sign. -/
def splitEquals (text : List Char) : List Char × Option (List Char) :=
  (text.takeWhile (· ≠ '='), (text.dropWhile (· ≠ '=')).tail?)

/-- The switch of a spelling. -/
def spelled? (spelling : List Char) : Option Switch :=
  Switch.spellings.lookup (String.ofList spelling)

/-- The spellings that begin with a text. -/
def beginning (start : List Char) : List (String × Switch) :=
  Switch.spellings.filter fun entry => start.isPrefixOf entry.1.toList

/-- Whether a text is a minus sign with a whole or a broken number behind it.  A line end behind the
number does not matter. -/
def isNegativeNumber : List Char → Bool
  | '-' :: rest =>
    let body := if rest.getLast? = some '\n' then rest.dropLast else rest
    let whole := body.takeWhile DecimalDigit.isDigit
    match body.dropWhile DecimalDigit.isDigit with
    | [] => !whole.isEmpty
    | '.' :: places => !places.isEmpty && places.all DecimalDigit.isDigit
    | _ => false
  | _ => false

/-- What becomes of a text that begins with a dash and is no switch. -/
def classifyOther (text : List Char) : Argument :=
  if isNegativeNumber text || text.contains ' ' then .plain (String.ofList text)
  else .unknown (String.ofList text)

/-- What a text is that begins with two dashes. -/
def classifyLong (text : List Char) : Except Ambiguity Argument :=
  let (start, attached) := splitEquals text
  match spelled? start, beginning start with
  | some found, _ => .ok (.switch found (attached.map String.ofList))
  | none, [] => .ok (classifyOther text)
  | none, [entry] => .ok (.switch entry.2 (attached.map String.ofList))
  | none, entries => .error { text := String.ofList text, candidates := entries.map Prod.fst }

/-- What a text is that begins with one dash and another character. -/
def classifyShort (second : Char) (rest : List Char) : Argument :=
  match spelled? ['-', second], rest with
  | some found, [] => .switch found none
  | some found, '=' :: more => .letters found more
  | some found, more => .letters found more
  | none, rest => classifyOther ('-' :: second :: rest)

/-- **What a single argument is.** -/
def classify (argument : String) : Except Ambiguity Argument :=
  match argument.toList with
  | '-' :: '-' :: rest => classifyLong ('-' :: '-' :: rest)
  | '-' :: second :: rest => .ok (classifyShort second rest)
  | _ => .ok (.plain argument)

/-- **What the arguments are,** or the first that is ambiguous. -/
def classifyAll : List String → Except Ambiguity (List Argument)
  | [] => .ok []
  | argument :: rest =>
    if argument = "--" then .ok (.separator :: rest.map .plain)
    else
      match classify argument with
      | .error ambiguity => .error ambiguity
      | .ok first => (classifyAll rest).map (first :: ·)

end Argument

end ChipEight
