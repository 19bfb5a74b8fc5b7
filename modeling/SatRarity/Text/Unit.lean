import SatRarity.Text.Loose

set_option autoImplicit false

/-! # Code units

A code unit of UTF-16 is a number below `0x10000`. It is a code point of its own, unless it is one
half of a surrogate pair: a high surrogate and the low surrogate next to it are one code point.
Where code units stand among code points, only units are joined. A surrogate that already is a code
point of its own stays one, whatever stands beside it.
-/

namespace SatRarity.Text

/-- The code unit opens a surrogate pair. -/
def isHighSurrogate (n : Nat) : Bool := 0xD800 ≤ n && n < 0xDC00

/-- The code unit closes a surrogate pair. -/
def isLowSurrogate (n : Nat) : Bool := 0xDC00 ≤ n && n < 0xE000

/-- The code point with the given number. -/
def CodePoint.ofNat (n : Nat) : CodePoint :=
  if isHighSurrogate n || isLowSurrogate n then .surrogate n else .char (Char.ofNat n)

/-- The character of a surrogate pair. -/
def pairChar (high low : Nat) : Char :=
  Char.ofNat (0x10000 + (high - 0xD800) * 0x400 + (low - 0xDC00))

/-- A part of a text that may be written in code units. -/
inductive Piece
  | point (p : CodePoint)
  | unit (n : Nat)

/-- The code points of a text: each pair of neighbouring units is one of them. -/
def joinPairs : List Piece → List CodePoint
  | [] => []
  | .point p :: rest => p :: joinPairs rest
  | .unit n :: .unit m :: rest =>
    if isHighSurrogate n && isLowSurrogate m then .char (pairChar n m) :: joinPairs rest
    else CodePoint.ofNat n :: joinPairs (.unit m :: rest)
  | .unit n :: rest => CodePoint.ofNat n :: joinPairs rest

end SatRarity.Text
