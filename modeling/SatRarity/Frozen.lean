import SatRarity.Text.Quoted

set_option autoImplicit false

/-! # Records that do not change

Coordinates and schedules are values: nothing assigns to their fields. An attempt to do so is
refused, whatever the field and the value, and leaves the record as it was.
-/

namespace SatRarity

open Text

/-- The refusal to assign to a field. -/
structure FrozenField where
  field : String
  deriving DecidableEq

def FrozenField.message (e : FrozenField) : String := "cannot assign to field " ++ quote e.field

/-- The record after an attempt to assign to one of its fields, and the refusal. -/
def attemptAssign {α : Type} (record : α) (field : String) : α × FrozenField := (record, ⟨field⟩)

end SatRarity
