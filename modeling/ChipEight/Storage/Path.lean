/-!
# Paths

A path is a starting place and names to follow from there.  Empty names and the name `.` lead
nowhere and are left out; the name `..` is kept, because where it leads is known only on the way.

* `Path.parse` — the path that a text stands for.
* `Path.text` — a path as it is printed.
-/

namespace ChipEight

/-- Where a path starts.  Two slashes at the front are not the same as one; three or more are. -/
inductive Path.Start where
  | here
  | root
  | doubleRoot
  deriving DecidableEq

/-- A path. -/
structure Path where
  start : Path.Start
  names : List String
  deriving DecidableEq

namespace Path

/-- The starting place that a text begins with. -/
def startOf : List Char → Path.Start
  | '/' :: '/' :: '/' :: _ => .root
  | '/' :: '/' :: _ => .doubleRoot
  | '/' :: _ => .root
  | _ => .here

/-- The names in a text, between its slashes. -/
def namesOf (text : String) : List String :=
  ((text.toList.splitOn '/').map String.ofList).filter fun name => name ≠ "" && name ≠ "."

/-- The path that a text stands for. -/
def parse (text : String) : Path where
  start := startOf text.toList
  names := namesOf text

/-- **A path as it is printed.**  The starting place itself is a dot. -/
def text (path : Path) : String :=
  match path.start, path.names with
  | .here, [] => "."
  | .here, names => "/".intercalate names
  | .root, names => "/" ++ "/".intercalate names
  | .doubleRoot, names => "//" ++ "/".intercalate names

end Path

end ChipEight
