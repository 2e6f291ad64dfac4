import ChipEight.Storage.Path

/-!
# Directory trees

Files and directories, and how a path is followed through them.  Places are told by the names that
lead to them from the working directory, from one of the directories above it, or from the root.
Where nothing was put, those starting places are empty directories.

* `Place` — a place for a file or a directory.
* `FileTree.ofEntries` — the tree of some files and directories, given by their paths.
* `FileTree.follow` — what a path leads to.
* **`FileTree.read`** — the bytes of the file at a path, or why there are none.
-/

namespace ChipEight

/-- Why a file could not be read. -/
inductive ReadError where
  | notFound
  | notADirectory
  | isADirectory
  | nameTooLong
  deriving DecidableEq

namespace ReadError

/-- The number that the system has for an error. -/
def number : ReadError → Nat
  | .notFound => 2
  | .notADirectory => 20
  | .isADirectory => 21
  | .nameTooLong => 36

/-- The text that the system has for an error. -/
def text : ReadError → String
  | .notFound => "No such file or directory"
  | .notADirectory => "Not a directory"
  | .isADirectory => "Is a directory"
  | .nameTooLong => "File name too long"

end ReadError

/-- A directory that places are told from. -/
inductive Place.Origin where
  /-- The working directory, or the directory some levels above it. -/
  | above (levels : Nat)
  | root
  deriving DecidableEq

/-- A place: where to start, and the names that lead down from there, the last one first. -/
structure Place where
  origin : Place.Origin
  back : List String
  deriving DecidableEq

namespace Place

/-- The place where a path starts.  Two slashes at the front lead to the root like one. -/
def ofStart : Path.Start → Place
  | .here => { origin := .above 0, back := [] }
  | .root => { origin := .root, back := [] }
  | .doubleRoot => { origin := .root, back := [] }

/-- The directory that a place lies in.  The root lies in itself. -/
def parent : Place → Place
  | ⟨origin, _ :: back⟩ => ⟨origin, back⟩
  | ⟨.above levels, []⟩ => ⟨.above (levels + 1), []⟩
  | ⟨.root, []⟩ => ⟨.root, []⟩

/-- The place that a name leads to. -/
def enter (place : Place) (name : String) : Place :=
  if name = ".." then place.parent else { place with back := name :: place.back }

end Place

/-- What lies at a place. -/
inductive FileTree.Node where
  | directory
  | file (bytes : List UInt8)
  deriving DecidableEq

/-- What lies at the places where something was put.  Of two nodes at one place the later counts. -/
structure FileTree where
  nodes : List (Place × FileTree.Node) := []
  deriving DecidableEq

namespace FileTree

/-- A node put where names lead to, with a directory at every place on the way. -/
def plant (node : Node) : Place → List String → List (Place × Node)
  | place, [] => [(place, node)]
  | place, name :: rest => (place, .directory) :: plant node (place.enter name) rest

/-- The nodes of an entry.  A text that ends in a slash gives a directory, any other a file. -/
def ofEntry (text : String) (bytes : List UInt8) : List (Place × Node) :=
  let path := Path.parse text
  let node := if text.endsWith "/" then .directory else .file bytes
  plant node (Place.ofStart path.start) path.names

/-- **The tree of some entries.** -/
def ofEntries (entries : List (String × List UInt8)) : FileTree where
  nodes := entries.flatMap fun entry => ofEntry entry.1 entry.2

/-- What lies at a place. -/
def node? (tree : FileTree) (place : Place) : Option Node :=
  match tree.nodes.reverse.find? fun entry => entry.1 == place with
  | some entry => some entry.2
  | none => if place.back.isEmpty then some .directory else none

/-- The longest name that a directory can hold, in bytes. -/
def nameLimit : Nat := 255

/-- The longest path that can be followed, in bytes. -/
def pathLimit : Nat := 4095

/-- What names lead to from a place. -/
def follow (tree : FileTree) (place : Place) (names : List String) : Except ReadError Node :=
  match tree.node? place, names with
  | none, _ => .error .notFound
  | some node, [] => .ok node
  | some (.file _), _ :: _ => .error .notADirectory
  | some .directory, name :: rest =>
    if nameLimit < name.utf8ByteSize then .error .nameTooLong
    else follow tree (place.enter name) rest

/-- **The bytes of the file at a path.** -/
def read (tree : FileTree) (path : Path) : Except ReadError (List UInt8) :=
  if pathLimit < path.text.utf8ByteSize then .error .nameTooLong
  else
    match tree.follow (Place.ofStart path.start) path.names with
    | .error error => .error error
    | .ok .directory => .error .isADirectory
    | .ok (.file bytes) => .ok bytes

end FileTree

end ChipEight
