import SatRarity.Json.Binary64

set_option autoImplicit false

/-! # The shortest decimal of a binary floating-point number

Of the decimals that are rounded to a given number, the one with the fewest digits is written; of
those with equally many the nearest, and of two equally near the even one. The decimals with a
given number of digits form a grid, and if any of a grid is rounded to the number, then one of the
number's two neighbours on the grid is. So two candidates are tried for each number of digits, and
seventeen digits are always enough.

A decimal is laid out with a point where its leading digit stands for at least `10 ^ -4` and for
less than `10 ^ 16`, and with an exponent of at least two digits elsewhere.
-/

namespace SatRarity.Binary64

/-! ## Selection -/

/-- The natural number `m` times `2 ^ e` as a fraction. -/
def fraction (m : Nat) (e : Int) : Nat × Nat :=
  match e with
  | .ofNat k => (m <<< k, 1)
  | .negSucc k => (m, 1 <<< (k + 1))

/-- How often `num` is multiplied by ten until it reaches `den`. -/
def stepsTo (den : Nat) : Nat → Nat → Nat
  | 0, _ => 0
  | fuel + 1, num => if den ≤ num then 0 else stepsTo den fuel (10 * num) + 1

/-- The power of ten that the leading digit of the fraction `num / den` stands for. No positive
number has a leading digit below `10 ^ -324`. -/
def leadingExponent (num den : Nat) : Int :=
  if den ≤ num then ((Nat.toDigits 10 (num / den)).length : Int) - 1
  else -(stepsTo den 324 num : Int)

/-- The two neighbours of the fraction `num / den` among the multiples of `10 ^ p`, the nearer one
first. -/
def neighbours (num den : Nat) (p : Int) : List Nat :=
  let (a, b) := match p with
    | .ofNat k => (num, den * Nat.pow 10 k)
    | .negSucc k => (num * Nat.pow 10 (k + 1), den)
  let n := a / b
  let r := a % b
  if 2 * r < b ∨ (2 * r = b ∧ n % 2 = 0) then [n, n + 1] else [n + 1, n]

/-- The most digits that are ever needed. -/
def mostDigits : Nat := 17

/-- The shortest decimal `n * 10 ^ p` that is rounded to `m * 2 ^ e`. -/
def select (m : Nat) (e : Int) : Nat × Int :=
  let (num, den) := fraction m e
  let lead := leadingExponent num den
  let found := (List.range mostDigits).findSome? fun (k : Nat) =>
    let p := lead - (k : Int)
    ((neighbours num den p).find? fun n => ofDecimal false n p = finite false m e).map (·, p)
  found.getD (num, 0)

/-! ## Layout -/

/-- Digits after a point, of which there is at least one. -/
def afterPoint (digits : List Char) : List Char :=
  '.' :: (if digits.isEmpty then ['0'] else digits)

/-- Digits with a point after the first one if others follow. -/
def scientific : List Char → List Char
  | d :: c :: rest => d :: '.' :: c :: rest
  | digits => digits

/-- An exponent with its sign and at least two digits. -/
def exponentDigits (e : Int) : List Char :=
  let digits := Nat.toDigits 10 e.natAbs
  (if e < 0 then '-' else '+') :: (if digits.length < 2 then '0' :: digits else digits)

/-- Digits laid out, where the first one stands for `10 ^ lead`. -/
def layOut (digits : List Char) (lead : Int) : List Char :=
  if lead < -4 ∨ 16 ≤ lead then scientific digits ++ 'e' :: exponentDigits lead
  else match lead with
    | .ofNat k =>
      digits.take (k + 1) ++ List.replicate (k + 1 - digits.length) '0'
        ++ afterPoint (digits.drop (k + 1))
    | .negSucc k => '0' :: afterPoint (List.replicate k '0' ++ digits)

/-- The decimal `n * 10 ^ p`, without zeros at the end of its digits. -/
def written (n : Nat) (p : Int) : List Char :=
  let digits := Nat.toDigits 10 n
  layOut ((digits.reverse.dropWhile (· == '0')).reverse) (p + digits.length - 1)

/-- The shortest decimal of a number. -/
def toDecimal : Binary64 → List Char
  | infinite negative => (if negative then "-Infinity" else "Infinity").toList
  | finite negative m e =>
    let (n, p) := select m e
    (if negative then ['-'] else []) ++ (if m = 0 then ['0', '.', '0'] else written n p)

end SatRarity.Binary64
