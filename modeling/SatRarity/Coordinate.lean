import SatRarity.Json.Value
import SatRarity.Raised
import SatRarity.Text.Numeral

set_option autoImplicit false

/-! # Positional coordinates

A coordinate places a sat in the emission: the era, the block within the era, the block within the
difficulty period, and the sat within the subsidy of its block. The fields are arbitrary integers;
`Coordinate.validate` checks what a place under a subsidy has to satisfy, and raises an error for
the first condition that fails, the four fields first and in the order of declaration.
-/

namespace SatRarity

open Text

/-! ## Fields -/

/-- The name of a field of a coordinate. -/
inductive Coordinate.Field
  | epoch
  | epochPosition
  | periodPosition
  | subsidyPosition
  deriving DecidableEq

/-- A place in the emission, from the coarsest to the finest position. -/
structure Coordinate where
  epoch : Int
  epochPosition : Int
  periodPosition : Int
  subsidyPosition : Int
  deriving DecidableEq

namespace Coordinate

/-- The fields in the order of declaration. -/
def Field.all : List Field := [epoch, epochPosition, periodPosition, subsidyPosition]

/-- The name of a field in messages and records. -/
def Field.name : Field → String
  | epoch => "epoch"
  | epochPosition => "epoch_position"
  | periodPosition => "period_position"
  | subsidyPosition => "subsidy_position"

def get (c : Coordinate) : Field → Int
  | .epoch => c.epoch
  | .epochPosition => c.epochPosition
  | .periodPosition => c.periodPosition
  | .subsidyPosition => c.subsidyPosition

def ofFun (f : Field → Int) : Coordinate :=
  ⟨f .epoch, f .epochPosition, f .periodPosition, f .subsidyPosition⟩

/-- The fields by name, in the order of declaration. -/
def fields (c : Coordinate) : List (String × Int) := Field.all.map fun f => (f.name, c.get f)

def toJson (c : Coordinate) : Json := .object (c.fields.map fun (name, n) => (name, .int n))

def described (c : Coordinate) : String :=
  "PositionalCoordinate("
    ++ ", ".intercalate (c.fields.map fun (name, n) => name ++ "=" ++ toString n) ++ ")"

/-- What holds of every field holds of each of the four. -/
theorem Field.forall_iff {p : Field → Prop} :
    (∀ f, p f) ↔ p epoch ∧ p epochPosition ∧ p periodPosition ∧ p subsidyPosition := by
  constructor
  · intro h
    exact ⟨h epoch, h epochPosition, h periodPosition, h subsidyPosition⟩
  · rintro ⟨hepoch, hepochPosition, hperiodPosition, hsubsidyPosition⟩ f
    cases f with
    | epoch => exact hepoch
    | epochPosition => exact hepochPosition
    | periodPosition => exact hperiodPosition
    | subsidyPosition => exact hsubsidyPosition

instance {p : Field → Prop} [DecidablePred p] : Decidable (∀ f, p f) :=
  decidable_of_iff _ Field.forall_iff.symm

theorem Field.name_injective {f f' : Field} (h : f.name = f'.name) : f = f' := by
  cases f <;> cases f' <;> first | rfl | exact absurd h (by decide)

@[simp] theorem get_ofFun (f : Field → Int) (k : Field) : (ofFun f).get k = f k := by
  cases k <;> rfl

/-! ## Validation -/

/-- Why a coordinate is no place under a subsidy. -/
inductive Error
  | negative (f : Field)
  | subsidyNotPositive
  /-- The block has too few sats. -/
  | outside (position subsidy : Int)
  deriving DecidableEq

def Error.message : Error → String
  | negative f => f.name ++ " cannot be negative."
  | subsidyNotPositive => "subsidy must be positive."
  | outside position subsidy =>
    "subsidy_position " ++ toString position ++ " is outside a subsidy of " ++ toString subsidy
      ++ "."

/-- The integers in the message have a decimal. -/
def Error.IsWritable : Error → Prop
  | negative _ | subsidyNotPositive => True
  | outside position subsidy => WithinLimit position ∧ WithinLimit subsidy

instance (e : Error) : Decidable e.IsWritable :=
  match e with
  | .negative _ | .subsidyNotPositive => isTrue trivial
  | .outside position subsidy =>
    inferInstanceAs (Decidable (WithinLimit position ∧ WithinLimit subsidy))

/-- What is raised where the error is found. -/
def Error.raised (e : Error) : Raised Error := if e.IsWritable then .stated e else .unwritable

/-- Checks that the coordinate is a place in a block of the given subsidy. -/
def validate (c : Coordinate) (subsidy : Int) : Except (Raised Error) Unit :=
  match Field.all.find? fun f => c.get f < 0 with
  | some f => .error (Error.negative f).raised
  | none =>
    if subsidy ≤ 0 then .error Error.subsidyNotPositive.raised
    else if subsidy ≤ c.subsidyPosition then .error (Error.outside c.subsidyPosition subsidy).raised
    else .ok ()

end Coordinate

end SatRarity
