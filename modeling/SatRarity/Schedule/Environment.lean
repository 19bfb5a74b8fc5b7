import SatRarity.Schedule
import SatRarity.Text.Numeral

set_option autoImplicit false

/-! # Schedules from the environment

Each parameter has a variable. A variable that is not set or holds only spacing leaves its
parameter at the standard; any other has to hold an integer numeral, with spacing around it.
All three variables are read, in the order of declaration, before any parameter is checked for
being positive.
-/

namespace SatRarity

open Text

/-- The variables of an environment and their values. -/
abbrev Environment := String → Option String

namespace Schedule

/-- The integer that the environment gives for a parameter. -/
def readVariable (env : Environment) (k : Parameter) : Except Error Int :=
  match env k.variable with
  | none => .ok (standard.parameters.get k)
  | some raw => match trim isSpacing raw.toList with
    | [] => .ok (standard.parameters.get k)
    | t => match Numeral.readChars t with
      | .ok n => .ok n
      | .error _ => .error (.notInteger k raw)

/-- The parameters that the environment gives. -/
def readVariables (env : Environment) : Except Error Parameters := do
  let halvingInterval ← readVariable env .halvingInterval
  let diffchangeInterval ← readVariable env .diffchangeInterval
  let initialSubsidy ← readVariable env .initialSubsidy
  pure { halvingInterval, diffchangeInterval, initialSubsidy }

/-- The schedule that the environment gives. -/
def ofEnvironment (env : Environment) : Except Error Schedule := do
  ofParameters (← readVariables env)

end Schedule

end SatRarity
