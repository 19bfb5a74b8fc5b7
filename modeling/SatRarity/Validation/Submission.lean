import SatRarity.Coordinate
import SatRarity.Validation.Lenient

set_option autoImplicit false

/-! # Submitted coordinates

A submission is a coordinate whose fields are not negative, with a subsidy or without. It is read
from an object: the four fields are required, the subsidy may be missing or null, other fields are
ignored. There is one issue for each field that is wrong, in the order of declaration.
-/

namespace SatRarity

/-- A coordinate that is to be classified, and the subsidy if it is given. -/
structure Submission where
  coordinate : Coordinate
  subsidy : Option Int
  deriving DecidableEq

namespace Submission

/-- The place of a submission in a request. -/
def place : List String := ["body"]

def readField (v : Json) (f : Coordinate.Field) : Except Issue Int :=
  Issue.readField place v f.name Lenient.natural

def readSubsidy (v : Json) : Except Issue (Option Int) :=
  match v.get? "subsidy" with
  | none => .ok none
  | some _ => Issue.readField place v "subsidy" Lenient.optionalInteger

/-- The issues of an object, in the order of its fields. -/
def issues (v : Json) : List Issue :=
  (Coordinate.Field.all.filterMap fun f => Issue.of? (readField v f))
    ++ (Issue.of? (readSubsidy v)).toList

/-- The submission that a value is. -/
def ofJson (v : Json) : Except (List Issue) Submission :=
  match v with
  | .object _ =>
    match readField v .epoch, readField v .epochPosition, readField v .periodPosition,
      readField v .subsidyPosition, readSubsidy v with
    | .ok epoch, .ok epochPosition, .ok periodPosition, .ok subsidyPosition, .ok subsidy =>
      .ok { coordinate := { epoch, epochPosition, periodPosition, subsidyPosition }, subsidy }
    | _, _, _, _, _ => .error (issues v)
  | _ => .error [⟨.notRecord, place, v⟩]

end Submission

end SatRarity
