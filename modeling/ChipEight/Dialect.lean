/-!
# Dialects

Interpreters of this machine have disagreed on four points since the first ones.  A `Dialect` says
which side is taken on each.
-/

namespace ChipEight

/-- The four points on which interpreters differ.  The defaults are the machine's own dialect. -/
structure Dialect where
  /-- `8XY1`, `8XY2` and `8XY3` clear VF. -/
  logicClearsFlag : Bool := true
  /-- `8XY6` and `8XYE` shift Vy into Vx; otherwise they shift Vx in place. -/
  shiftsFromY : Bool := true
  /-- `DXYN` cuts a sprite off at the edges; otherwise every pixel wraps around. -/
  clipsSprites : Bool := true
  /-- `FX55` and `FX65` leave I behind the last byte they touched. -/
  advancesIndex : Bool := true
  deriving DecidableEq

end ChipEight
