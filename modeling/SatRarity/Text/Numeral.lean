import SatRarity.Text.Blank
import SatRarity.Text.DecimalDigit

set_option autoImplicit false

/-! # Integer numerals

A numeral is an optional sign and a run of decimal digits of any script, in which single
underscores may stand between two digits; blanks may surround it. A run of more than
`digitLimit` digits is refused, leading zeros counted. The same limit holds the other way: an
integer with more digits than that has no decimal.

Reading looks at three things in this order: whether the run of digits and underscores is well
formed, whether it keeps to the limit, and whether only blanks follow it.
-/

namespace SatRarity.Text

/-! ## Runs of digits -/

/-- The most digits that a numeral may have. -/
def digitLimit : Nat := 4300

/-- The values of the digits of a run, if single underscores stand only between two digits. -/
def digitRun? (value? : Char → Option Nat) : List Char → Option (List Nat)
  | [] => none
  | [c] => (value? c).map fun d => [d]
  | c :: '_' :: rest => do
    let d ← value? c
    let ds ← digitRun? value? rest
    pure (d :: ds)
  | c :: rest => do
    let d ← value? c
    let ds ← digitRun? value? rest
    pure (d :: ds)

/-- The number that a list of decimal digits denotes, most significant first. -/
def ofDigits (ds : List Nat) : Nat := ds.foldl (fun n d => 10 * n + d) 0

/-- Whether a minus sign stands first, and the text after an optional sign. -/
def splitSign : List Char → Bool × List Char
  | '-' :: rest => (true, rest)
  | '+' :: rest => (false, rest)
  | t => (false, t)

/-- The integer with the given sign and magnitude. -/
def signed (negative : Bool) (n : Nat) : Int := if negative then -(n : Int) else n

/-! ## The limit -/

/-- The decimal of the integer has no more digits than a numeral may have. -/
def WithinLimit (n : Int) : Prop := (Nat.toDigits 10 n.natAbs).length ≤ digitLimit

instance (n : Int) : Decidable (WithinLimit n) := Nat.decLe _ _

/-- What is said of digits beyond the limit. -/
def limitMessage (detail : String) : String :=
  "Exceeds the limit (" ++ toString digitLimit ++ " digits) for integer string conversion" ++ detail
    ++ "; use sys.set_int_max_str_digits() to increase the limit"

/-! ## Reading -/

namespace Numeral

/-- Why a text is no integer numeral. -/
inductive Error
  | malformed
  /-- The run has this many digits, more than the limit. -/
  | tooLong (digits : Nat)
  deriving DecidableEq

/-- A character of the run: a decimal digit or an underscore. -/
def isRunChar (c : Char) : Bool := isDecimalDigit c || c == '_'

/-- The integer that a text denotes. -/
def readChars (t : List Char) : Except Error Int :=
  let (negative, body) := splitSign (t.dropWhile isBlank)
  match digitRun? digitValue? (body.takeWhile isRunChar) with
  | none => .error .malformed
  | some ds =>
    if digitLimit < ds.length then .error (.tooLong ds.length)
    else if (body.dropWhile isRunChar).all isBlank then .ok (signed negative (ofDigits ds))
    else .error .malformed

/-- The integer that a text denotes. -/
def read (s : String) : Except Error Int := readChars s.toList

end Numeral

end SatRarity.Text
