set_option autoImplicit false

/-! # Comparisons

A comparison asks how two values are ordered. Between values of some kinds there is no order; then
the comparison has no answer, and the kinds of the two values are reported instead.
-/

namespace SatRarity

/-- A question about the order of two values. -/
inductive Comparison
  | lt
  | le
  | gt
  | ge
  deriving DecidableEq

def Comparison.sign : Comparison → String
  | lt => "<"
  | le => "<="
  | gt => ">"
  | ge => ">="

/-- A comparison of two values between whose kinds there is no order. -/
structure Incomparable where
  comparison : Comparison
  left : String
  right : String
  deriving DecidableEq

def Incomparable.message (e : Incomparable) : String :=
  "'" ++ e.comparison.sign ++ "' not supported between instances of '" ++ e.left ++ "' and '"
    ++ e.right ++ "'"

end SatRarity
