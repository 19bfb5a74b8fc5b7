import SatRarity.Comparison
import SatRarity.Coordinate
import SatRarity.Text.Numeral

set_option autoImplicit false

/-! # Given values

The value of an option is an integer. One text is never read as a value, because it is the
terminator: where `--` is attached to an option it is dropped, and the option is given all the same.
It then holds no integer but an empty list of values, which no comparison with an integer admits.

So every check that an integer has to pass breaks off at an empty list. For each check there are
integers that it refuses; a check of given values is therefore the check of integers with one of
these as a stand-in for the empty list, and breaks off where it refuses a stand-in.
-/

namespace SatRarity.CommandLine

/-! ## Values -/

/-- What is given for an option that takes an integer. -/
inductive Given
  | integer (n : Int)
  /-- An empty list: the value was the terminator. -/
  | empty
  deriving DecidableEq

namespace Given

/-- The integer that is given, or a stand-in. -/
def getD (standIn : Int) : Given → Int
  | integer n => n
  | empty => standIn

def read (text : String) : Except Text.Numeral.Error Given :=
  if text = "--" then .ok .empty else (Text.Numeral.read text).map .integer

@[simp] theorem getD_integer (standIn n : Int) : (integer n).getD standIn = n := rfl

end Given

/-! ## Drafts -/

/-- A coordinate as it is given, and the subsidy if it is given. -/
structure Draft where
  epoch : Given
  epochPosition : Given
  periodPosition : Given
  subsidyPosition : Given
  subsidy : Option Given
  deriving DecidableEq

namespace Draft

def get (d : Draft) : Coordinate.Field → Given
  | .epoch => d.epoch
  | .epochPosition => d.epochPosition
  | .periodPosition => d.periodPosition
  | .subsidyPosition => d.subsidyPosition

/-- The draft of a coordinate, with a subsidy or without. -/
def ofCoordinate (c : Coordinate) (subsidy : Option Int) : Draft where
  epoch := .integer c.epoch
  epochPosition := .integer c.epochPosition
  periodPosition := .integer c.periodPosition
  subsidyPosition := .integer c.subsidyPosition
  subsidy := subsidy.map .integer

/-- The coordinate, with a negative stand-in. -/
def coordinate (d : Draft) : Coordinate := .ofFun fun f => (d.get f).getD (-1)

/-- The subsidy, with a stand-in that is not positive. -/
def subsidy? (d : Draft) : Option Int := d.subsidy.map (Given.getD 0)

@[simp] theorem coordinate_ofCoordinate (c : Coordinate) (subsidy : Option Int) :
    (ofCoordinate c subsidy).coordinate = c := rfl

@[simp] theorem subsidy?_ofCoordinate (c : Coordinate) (subsidy : Option Int) :
    (ofCoordinate c subsidy).subsidy? = subsidy := by
  cases subsidy <;> rfl

end Draft

end SatRarity.CommandLine
