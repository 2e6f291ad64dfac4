/-!
# Switches

The switches of the command line and their spellings.

* `Switch.spellings` — every spelling with its switch, in the order in which they are listed.
* `Switch.label` — a switch with all its spellings.
-/

namespace ChipEight

/-- The switches of the command line. -/
inductive Switch where
  | help
  | cycles
  | cosmacKeys
  | debug
  | logs
  | noVfReset
  | shiftVx
  | wrapSprites
  | keepI
  deriving DecidableEq

namespace Switch

/-- Every spelling with its switch. -/
def spellings : List (String × Switch) :=
  [("-h", .help), ("--help", .help), ("--cycles", .cycles), ("--cosmac-keys", .cosmacKeys),
   ("--debug", .debug), ("--logs", .logs), ("--no-vf-reset", .noVfReset), ("--shift-vx", .shiftVx),
   ("--wrap-sprites", .wrapSprites), ("--keep-i", .keepI)]

/-- A switch with all its spellings. -/
def label (switch : Switch) : String :=
  "/".intercalate ((spellings.filter fun entry => entry.2 == switch).map Prod.fst)

/-- Whether a switch is followed by a value. -/
def takesValue : Switch → Bool
  | .cycles => true
  | _ => false

end Switch

end ChipEight
