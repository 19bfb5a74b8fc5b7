import SatRarity.Classification
import SatRarity.Rejection

set_option autoImplicit false

/-! # Derivations

A derivation is a coordinate with the subsidy and the tier that were found for it. `derive` is the
whole way from a coordinate to its derivation under a schedule: the subsidy is the given one, or
else the schedule's for the epoch, then the coordinate is validated against it, and only then
classified. A derivation can be reported and printed as long as its integers have decimals.
-/

namespace SatRarity

open Text

/-- A coordinate, the subsidy of its block and its tier. -/
structure Derivation where
  coordinate : Coordinate
  subsidy : Int
  tier : Tier
  deriving DecidableEq

def Derivation.toJson (d : Derivation) : Json :=
  .object [("coordinate", d.coordinate.toJson), ("subsidy", .int d.subsidy),
    ("rarity", .text d.tier.name)]

/-- The integers of the derivation keep to the limit of numerals. -/
def Derivation.KeepsToLimit (d : Derivation) : Prop :=
  (∀ f, WithinLimit (d.coordinate.get f)) ∧ WithinLimit d.subsidy

instance (d : Derivation) : Decidable d.KeepsToLimit :=
  inferInstanceAs (Decidable (_ ∧ _))

/-- The line that reports a derivation, if its integers can be written. -/
def Derivation.report? (d : Derivation) : Option String :=
  if d.KeepsToLimit then
    some ("derived " ++ d.tier.name ++ " for " ++ d.coordinate.described ++ " with subsidy "
      ++ toString d.subsidy)
  else none

/-- The subsidy that counts for a coordinate: the given one, or else the schedule's. -/
def effectiveSubsidy (s : Schedule) (c : Coordinate) : Option Int → Except Rejection Int
  | some n => .ok n
  | none => match s.subsidy c.epoch with
    | .ok n => .ok n
    | .error e => .error (.schedule e)

/-- The derivation of a coordinate under a schedule, with the subsidy given or left to the
schedule. -/
def derive (s : Schedule) (c : Coordinate) (subsidy : Option Int) :
    Except (Raised Rejection) Derivation :=
  match effectiveSubsidy s c subsidy with
  | .error reason => .error (.stated reason)
  | .ok n => match c.validate n with
    | .ok () => .ok ⟨c, n, classify s n c⟩
    | .error raised => .error (raised.map .coordinate)

end SatRarity
