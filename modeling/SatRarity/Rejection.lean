import SatRarity.Coordinate
import SatRarity.Schedule
import SatRarity.Tier

set_option autoImplicit false

/-! # Rejections

The errors of the domain under one roof: a name or a code that is no tier, a schedule that is
none, and a coordinate that is no place. Commands and requests that fail with one of them report
its message.
-/

namespace SatRarity

/-- An error of the domain. -/
inductive Rejection
  | name (e : Tier.UnknownName)
  | code (e : Tier.UnknownCode)
  | schedule (e : Schedule.Error)
  | coordinate (e : Coordinate.Error)
  deriving DecidableEq

def Rejection.message : Rejection → String
  | name e => e.message
  | code e => e.message
  | schedule e => e.message
  | coordinate e => e.message

end SatRarity
