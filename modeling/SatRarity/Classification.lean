import SatRarity.Coordinate
import SatRarity.Schedule
import SatRarity.Tier

set_option autoImplicit false

/-! # Classification

The first sat of a block ranks by the boundaries that its block opens, of the halving era and of
the difficulty period; the last sat of a block ranks by the boundaries that its block closes. The
sat that opens both in the first era is the only one above all that. A sat that is both first and
last counts as first, and every other sat is common.

The classification is defined for every coordinate, subsidy and schedule; it checks nothing.
-/

namespace SatRarity

/-! ## Boundaries -/

/-- The boundaries that meet at one end of a block. -/
structure Boundaries where
  era : Bool
  period : Bool
  deriving DecidableEq

namespace Boundaries

/-- The tier of the first sat of a block that opens these boundaries. -/
def openingTier : Boundaries → Tier
  | ⟨true, true⟩ => .legendary
  | ⟨true, false⟩ => .epic
  | ⟨false, true⟩ => .rare
  | ⟨false, false⟩ => .uncommon

/-- The tier of the last sat of a block that closes these boundaries. -/
def closingTier : Boundaries → Tier
  | ⟨true, true⟩ => .blackLegendary
  | ⟨true, false⟩ => .blackEpic
  | ⟨false, true⟩ => .blackRare
  | ⟨false, false⟩ => .blackUncommon

end Boundaries

/-- The boundaries that the block of a coordinate opens. -/
def Coordinate.opened (c : Coordinate) : Boundaries where
  era := c.epochPosition = 0
  period := c.periodPosition = 0

/-- The boundaries that the block of a coordinate closes. -/
def Coordinate.closed (s : Schedule) (c : Coordinate) : Boundaries where
  era := c.epochPosition = s.halvingInterval - 1
  period := c.periodPosition = s.diffchangeInterval - 1

/-! ## Classification -/

/-- The tier of the sat at a coordinate, in a block of the given subsidy. -/
def classify (s : Schedule) (subsidy : Int) (c : Coordinate) : Tier :=
  if c.subsidyPosition = 0 then
    if c.epoch = 0 ∧ c.opened = ⟨true, true⟩ then .mythic else c.opened.openingTier
  else if c.subsidyPosition = subsidy - 1 then (c.closed s).closingTier
  else .common

end SatRarity
