/-!
# Misfits

The numbers in the state of a machine always fit where the machine uses them, unless a host has
written numbers of its own there.  A `Misfit` says what such a number is not.
-/

namespace ChipEight

/-- Why a number does not fit where it is to be used. -/
inductive Misfit where
  /-- It names no place, or it bounds a slice that has not as many places as there are bytes. -/
  | noPlace
  /-- It is no byte. -/
  | noByte
  /-- It is no return address. -/
  | noAddress
  deriving DecidableEq

/-- The text of a misfit. -/
def Misfit.message : Misfit → String
  | .noPlace => "index out of range"
  | .noByte => "byte must be in range(0, 256)"
  | .noAddress => "address must be in range(0, 65536)"

end ChipEight
