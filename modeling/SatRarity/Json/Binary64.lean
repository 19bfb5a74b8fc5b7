set_option autoImplicit false

/-! # Decimals as binary floating-point numbers

A decimal `± mantissa * 10 ^ exponent` is rounded to the nearest 64-bit binary floating-point
number, a tie going to the even neighbour. All arithmetic is exact: a finite result is a sign, a
natural number and a power of two. Nothing here computes a power of ten that the literal does not
call for: a decimal far outside the range is infinite or zero by the size of its exponent alone.
-/

namespace SatRarity

/-- A 64-bit binary floating-point number that is not NaN: `± mantissa * 2 ^ exponent`, or
infinite. -/
inductive Binary64
  | finite (negative : Bool) (mantissa : Nat) (exponent : Int)
  | infinite (negative : Bool)
  deriving DecidableEq

namespace Binary64

/-! ## Rounding -/

/-- The least exponent of a power of two: below it precision is lost. -/
def leastExponent : Int := -1074

/-- Two to the power 1024, the first magnitude that is infinite. -/
def overflowBound : Nat := 1 <<< 1024

/-- Two to the power 53, the first magnitude of more than 53 binary digits. -/
def precisionBound : Nat := 1 <<< 53

/-- The integer nearest to `num / den`, of two the even one. -/
def roundHalfEven (num den : Nat) : Nat :=
  let q := num / den
  let r := num % den
  if 2 * r < den then q
  else if den < 2 * r then q + 1
  else if q % 2 = 0 then q else q + 1

/-- `num / den / 2 ^ e` as a numerator and a denominator. -/
def scale (num den : Nat) (e : Int) : Nat × Nat :=
  match e with
  | .ofNat k => (num, den <<< k)
  | .negSucc k => (num <<< (k + 1), den)

/-- The exponent at which `num / den` has 53 binary digits before the point, or the least
exponent if it has fewer there. -/
def unitExponent (num den : Nat) : Int :=
  let guess : Int := (Nat.log2 num : Int) - Nat.log2 den - 53
  let (n, d) := scale num den guess
  max leastExponent (if n / d < precisionBound then guess else guess + 1)

/-- The mantissa and exponent of `m * 2 ^ e`, where rounding may have led to a mantissa of one
binary digit too many. -/
def normalize (m : Nat) (e : Int) : Nat × Int :=
  if m = precisionBound then (m >>> 1, e + 1) else (m, e)

/-- The number nearest to the positive fraction `num / den`. -/
def ofFraction (negative : Bool) (num den : Nat) : Binary64 :=
  let e := unitExponent num den
  let (n, d) := scale num den e
  let (m, e) := normalize (roundHalfEven n d) e
  match e with
  | .ofNat k => if overflowBound ≤ m <<< k then infinite negative else finite negative m e
  | .negSucc _ => finite negative m e

/-- The number nearest to the decimal `± m * 10 ^ exponent`. -/
def ofDecimal (negative : Bool) (m : Nat) (exponent : Int) : Binary64 :=
  if m = 0 then finite negative 0 0
  else if 400 < exponent then infinite negative
  else if exponent + (Nat.log2 m + 1) < -400 then finite negative 0 0
  else match exponent with
    | .ofNat k => ofFraction negative (m * Nat.pow 10 k) 1
    | .negSucc k => ofFraction negative m (Nat.pow 10 (k + 1))

/-! ## Integers -/

/-- The integer that is left when the fraction is dropped. -/
def truncate? : Binary64 → Option Int
  | finite negative m e =>
    let n : Nat := match e with
      | .ofNat k => m <<< k
      | .negSucc k => m >>> (k + 1)
    some (if negative then -(n : Int) else n)
  | infinite _ => none

def isIntegral : Binary64 → Bool
  | finite _ m (.negSucc k) => (m >>> (k + 1)) <<< (k + 1) == m
  | finite _ _ (.ofNat _) => true
  | infinite _ => false

def isFinite : Binary64 → Bool
  | finite _ _ _ => true
  | infinite _ => false

end Binary64

end SatRarity
