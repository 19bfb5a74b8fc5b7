import SatRarity.Json.Binary64
import SatRarity.Json.Value

set_option autoImplicit false

/-! # Finite values

A value is finite if every number in it is, at any depth: it holds no special number and no
decimal that is out of range. Only a finite value can be written in standard JSON by those who
hold its numbers as binary floating-point numbers.
-/

namespace SatRarity.Json

open Text

mutual

/-- Every number in the value is finite. -/
def isFinite : Json → Bool
  | decimal negative mantissa exponent =>
    (Binary64.ofDecimal negative mantissa exponent).isFinite
  | special _ => false
  | list items => areFinite items
  | object fields => areFiniteFields fields
  | null | bool _ | int _ | text _ => true

/-- Every number in the items is finite. -/
def areFinite : List Json → Bool
  | [] => true
  | item :: items => item.isFinite && areFinite items

/-- Every number in the values of the fields is finite. -/
def areFiniteFields : List (LooseText × Json) → Bool
  | [] => true
  | (_, value) :: fields => value.isFinite && areFiniteFields fields

end

end SatRarity.Json
