import SatRarity.Json.Value
import SatRarity.Tier

set_option autoImplicit false

/-! # Issues

An issue says what is wrong with one part of a submitted value, where that part stands, and what
was found there. A field of a record is checked on its own: `readField` finds at most one issue,
and it depends on nothing but the value of the field, or on the record where the field is missing.
-/

namespace SatRarity

/-! ## Kinds -/

/-- What is wrong with a part of a value. -/
inductive Issue.Kind
  | missing
  | notTier
  | notInteger
  | integerText
  /-- The text has surrogates in it. -/
  | brokenText
  | integerSize
  | fraction
  | notFinite
  | negative
  | notBoolean
  | booleanText
  | notTierInfo
  | notRecord
  | notJson
  deriving DecidableEq

namespace Issue.Kind

def code : Kind → String
  | missing => "missing"
  | notTier => "enum"
  | notInteger => "int_type"
  | integerText => "int_parsing"
  | brokenText => "string_unicode"
  | integerSize => "int_parsing_size"
  | fraction => "int_from_float"
  | notFinite => "finite_number"
  | negative => "greater_than_equal"
  | notBoolean => "bool_type"
  | booleanText => "bool_parsing"
  | notTierInfo => "model_type"
  | notRecord => "model_attributes_type"
  | notJson => "json_invalid"

/-- The names of a list in quotes, with `or` before the last. -/
def alternatives : List String → String
  | [] => ""
  | [a] => "'" ++ a ++ "'"
  | [a, b] => "'" ++ a ++ "' or '" ++ b ++ "'"
  | a :: rest => "'" ++ a ++ "', " ++ alternatives rest

def message : Kind → String
  | missing => "Field required"
  | notTier => "Input should be " ++ alternatives (Tier.all.map Tier.name)
  | notInteger => "Input should be a valid integer"
  | integerText => "Input should be a valid integer, unable to parse string as an integer"
  | brokenText =>
    "Input should be a valid string, unable to parse raw data as a unicode string"
  | integerSize => "Unable to parse input string as an integer, exceeded maximum size"
  | fraction => "Input should be a valid integer, got a number with a fractional part"
  | notFinite => "Input should be a finite number"
  | negative => "Input should be greater than or equal to 0"
  | notBoolean => "Input should be a valid boolean"
  | booleanText => "Input should be a valid boolean, unable to interpret input"
  | notTierInfo => "Input should be a valid dictionary or instance of TierInfo"
  | notRecord => "Input should be a valid dictionary or object to extract fields from"
  | notJson => "JSON decode error"

end Issue.Kind

/-! ## Issues -/

/-- What is wrong with a part of a value, where, and what was found there. -/
structure Issue where
  kind : Issue.Kind
  location : List String
  found : Json

namespace Issue

/-- The issue as a record; what was found is left out. -/
def toJson (i : Issue) : Json :=
  .object [("type", .text i.kind.code),
    ("loc", .list (i.location.map fun (part : String) => .text part)),
    ("msg", .text i.kind.message)]

/-- The issue of a part, if it has one. -/
def of? {α : Type} : Except Issue α → Option Issue
  | .ok _ => none
  | .error i => some i

/-- Reads a field of a record that stands at the given place. -/
def readField {α : Type} (place : List String) (v : Json) (name : String)
    (read : Json → Except Kind α) : Except Issue α :=
  match v.get? name with
  | none => .error ⟨.missing, place ++ [name], v⟩
  | some value => match read value with
    | .ok a => .ok a
    | .error k => .error ⟨k, place ++ [name], value⟩

end Issue

end SatRarity
