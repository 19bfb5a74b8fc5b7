set_option autoImplicit false

/-! # Raised errors

An error is raised together with its message. If an integer in the message has more digits than a
decimal may have, the message cannot be written, and the error is not raised at all: a complaint
about the integer takes its place, and nobody who waits for the error is told of it.
-/

namespace SatRarity

/-- What is raised where an error is found. -/
inductive Raised (ε : Type)
  /-- The error, with its message. -/
  | stated (e : ε)
  /-- The complaint that the message cannot be written. -/
  | unwritable
  deriving DecidableEq

/-- The error seen as one of another kind. -/
def Raised.map {ε ε' : Type} (f : ε → ε') : Raised ε → Raised ε'
  | stated e => stated (f e)
  | unwritable => unwritable

end SatRarity
