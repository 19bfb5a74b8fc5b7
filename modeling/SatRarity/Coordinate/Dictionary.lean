import SatRarity.Coordinate
import SatRarity.Json.Binary64
import SatRarity.Text.Numeral
import SatRarity.Text.Quoted

set_option autoImplicit false

/-! # Coordinates from records

A coordinate is read from a record that has its four fields; other fields are ignored. A field may
be an integer, a truth value, a decimal, of which the fraction is dropped, or a text that is an
integer numeral. The fields are read in the order of declaration and the first one that fails is
the error.
-/

namespace SatRarity.Coordinate

open Text

/-! ## Errors -/

/-- Why a value is no coordinate record. -/
inductive DictionaryError
  | notRecord (v : Json)
  | missing (f : Field)
  /-- The field is null, a list or a record. -/
  | notNumber (v : Json)
  /-- The field is a decimal out of range or a special number. -/
  | notFinite (nan : Bool)
  /-- The field is a text that is no integer numeral. -/
  | numeral (s : LooseText) (e : Numeral.Error)

/-- How much of a quoted text a message repeats. -/
def quotedLimit : Nat := 200

def numeralMessage (s : LooseText) : Numeral.Error → String
  | .malformed =>
    "invalid literal for int() with base 10: " ++ String.ofList ((quotePoints s).take quotedLimit)
  | .tooLong digits => limitMessage (": value has " ++ toString digits ++ " digits")

def DictionaryError.message : DictionaryError → String
  | notRecord (.list _) => "list indices must be integers or slices, not str"
  | notRecord (.text _) => "string indices must be integers, not 'str'"
  | notRecord v => "'" ++ v.kind ++ "' object is not subscriptable"
  | missing f => "'" ++ f.name ++ "'"
  | notNumber v =>
    "int() argument must be a string, a bytes-like object or a real number, not '"
      ++ v.kind ++ "'"
  | notFinite nan =>
    "cannot convert float " ++ (if nan then "NaN" else "infinity") ++ " to integer"
  | numeral s e => numeralMessage s e

/-! ## Reading -/

/-- The integer that the value of a field stands for. -/
def integerOf : Json → Except DictionaryError Int
  | .int n => .ok n
  | .bool b => .ok (if b then 1 else 0)
  | .decimal negative mantissa exponent =>
    match (Binary64.ofDecimal negative mantissa exponent).truncate? with
    | some n => .ok n
    | none => .error (.notFinite false)
  | .special .nan => .error (.notFinite true)
  | .special _ => .error (.notFinite false)
  | .text s =>
    match Numeral.read s.toString with
    | .ok n => .ok n
    | .error e => .error (.numeral s e)
  | v => .error (.notNumber v)

/-- The integer that a field of a record stands for. -/
def readField (v : Json) (f : Field) : Except DictionaryError Int :=
  match v.get? f.name with
  | some value => integerOf value
  | none => .error (.missing f)

/-- The coordinate that a record stands for. -/
def ofJson (v : Json) : Except DictionaryError Coordinate :=
  match v with
  | .object _ => do
    let epoch ← readField v .epoch
    let epochPosition ← readField v .epochPosition
    let periodPosition ← readField v .periodPosition
    let subsidyPosition ← readField v .subsidyPosition
    pure { epoch, epochPosition, periodPosition, subsidyPosition }
  | _ => .error (.notRecord v)

end SatRarity.Coordinate
