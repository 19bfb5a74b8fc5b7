import SatRarity.Tier
import SatRarity.Json.Writer

set_option autoImplicit false

/-! # Tier records

A tier record states the name, the code and the colour of a tier. `Tier.info` is the record that is
true of a tier; a record that comes from outside need not be true, and its code is any integer.
-/

namespace SatRarity

/-- What is said of a tier. -/
structure TierInfo where
  rarity : Tier
  code : Option Int
  black : Bool
  deriving DecidableEq

/-- What is true of a tier. -/
def Tier.info (t : Tier) : TierInfo where
  rarity := t
  code := t.code?.map fun code => (code : Int)
  black := t.isBlack

def TierInfo.toJson (info : TierInfo) : Json :=
  .object [("rarity", .text info.rarity.name),
    ("code", match info.code with
      | some code => .int code
      | none => .null),
    ("black", .bool info.black)]

end SatRarity
