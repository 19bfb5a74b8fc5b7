import SatRarity.Tier.Info
import SatRarity.Validation.Lenient

set_option autoImplicit false

/-! # Submitted tier records

A tier record is read from an object with the fields `rarity`, `code` and `black`, all of them
required; other fields are ignored. The tier is given by its exact name and by nothing else, the
code is null or a lenient integer, and the colour is a lenient truth value. There is one issue for
each field that is wrong, in this order.
-/

namespace SatRarity.TierInfo

/-- The tier that a value names. -/
def readTier : Json → Except Issue.Kind Tier
  | .text s => match Tier.ofName s.toString with
    | .ok t => .ok t
    | .error _ => .error .notTier
  | _ => .error .notTier

def ofJson (v : Json) : Except (List Issue) TierInfo :=
  match v with
  | .object _ =>
    let rarity := Issue.readField [] v "rarity" readTier
    let code := Issue.readField [] v "code" Lenient.optionalInteger
    let black := Issue.readField [] v "black" Lenient.boolean
    match rarity, code, black with
    | .ok rarity, .ok code, .ok black => .ok { rarity, code, black }
    | rarity, code, black =>
      .error ([Issue.of? rarity, Issue.of? code, Issue.of? black].filterMap id)
  | _ => .error [⟨.notTierInfo, [], v⟩]

end SatRarity.TierInfo
