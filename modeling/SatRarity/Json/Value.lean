import SatRarity.Text.Loose

set_option autoImplicit false

/-! # JSON values

Numbers keep what their literal says: an integer literal is an integer, and a literal with a
fraction or an exponent is an exact decimal `± mantissa * 10 ^ exponent`, of which the sign counts
even if it is zero. Besides the values of the standard there are three that some writers produce,
`NaN` and the two infinities. Texts and keys are loose: they may hold surrogates.

An object is a list of fields in order; `ofFields` makes one from a list in which a key may be
repeated: the key stands where it stood first, with the value that it had last.
-/

namespace SatRarity

open Text

/-! ## Values -/

/-- The numbers that are outside the standard and yet written by some programs. -/
inductive Json.Special
  | nan
  | infinity
  | negativeInfinity
  deriving DecidableEq

/-- A JSON value. -/
inductive Json
  | null
  | bool (b : Bool)
  | int (n : Int)
  | decimal (negative : Bool) (mantissa : Nat) (exponent : Int)
  | special (s : Json.Special)
  | text (s : LooseText)
  | list (items : List Json)
  | object (fields : List (LooseText × Json))

namespace Json

def Special.name : Special → String
  | nan => "NaN"
  | infinity => "Infinity"
  | negativeInfinity => "-Infinity"

/-- The kind of a value, as it is named in messages. -/
def kind : Json → String
  | null => "NoneType"
  | bool _ => "bool"
  | int _ => "int"
  | decimal _ _ _ | special _ => "float"
  | text _ => "str"
  | list _ => "list"
  | object _ => "dict"

/-! ## Objects -/

/-- The fields with each key once: in its first place, with its last value. -/
def mergeFields : List (LooseText × Json) → List (LooseText × Json)
  | [] => []
  | (key, value) :: rest =>
    let merged := mergeFields rest
    (key, (merged.lookup key).getD value) :: merged.filter fun field => field.1 != key

/-- The object with the given fields, in which a key may be repeated. -/
def ofFields (fields : List (LooseText × Json)) : Json := object (mergeFields fields)

/-- The value of a key, if the value is an object that has it. -/
def get? (v : Json) (key : String) : Option Json :=
  match v with
  | object fields => fields.lookup (LooseText.ofString key)
  | _ => none

end Json

end SatRarity
