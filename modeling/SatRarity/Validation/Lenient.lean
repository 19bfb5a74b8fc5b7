import SatRarity.Json.Binary64
import SatRarity.Text.Numeral
import SatRarity.Validation.Issue

set_option autoImplicit false

/-! # Lenient integers and truth values

Where an integer is asked for, other values that plainly mean one are taken for it: a truth value,
a decimal without a fraction that fits into a machine word, and a text.

An integer text has blanks around it, or none. It is an optional sign and a run of ASCII digits in
which single underscores may stand between two digits; a point and zeros may follow. Zeros may lead
the run, and among these leading zeros underscores may stand in any number. After leading zeros,
and one more underscore or none, the minus sign may stand that does not stand in front.

A text that begins, after a minus sign or none, with too many digits of which the first is no zero
is too large, whatever follows; in any other form a run of too many digits is no integer text.

Likewise a truth value may be written by a number or by one of a few words.
-/

namespace SatRarity.Lenient

open Text

/-! ## Integers -/

/-- The text begins, after a minus sign or none, with more digits than a numeral may have, and the
first of them is no zero. -/
def isOversized (t : List Char) : Bool :=
  let body := match t with
    | '-' :: rest => rest
    | t => t
  body.head? != some '0' && digitLimit < (body.takeWhile Char.isDigit).length

/-- The text has no fraction, or one of zeros only. -/
def isZeroFraction : List Char → Bool
  | [] => true
  | '.' :: zeros => !zeros.isEmpty && zeros.all (· == '0')
  | _ => false

/-- What follows leading zeros, and underscores among them, of which `last` is the last one so far.
If nothing follows, that one is left. Only a digit or a minus sign may follow. -/
def afterZeros? (last : Char) : List Char → Option (List Char)
  | [] => some [last]
  | c :: rest =>
    if c = '0' ∨ c = '_' then afterZeros? c rest
    else if c.isDigit ∨ c = '-' then some (c :: rest)
    else none

/-- A text that begins with a digit, without its leading zeros. -/
def withoutZeros? : List Char → Option (List Char)
  | [] => none
  | c :: rest =>
    if c = '0' then afterZeros? c rest
    else if c.isDigit then some (c :: rest)
    else none

/-- The number that a run of digits denotes, if it has no superfluous zero and keeps to the
limit. -/
def magnitude? (t : List Char) : Option Nat := do
  let ds ← digitRun? asciiDigitValue? t
  if (ds.head? = some 0 ∧ ds ≠ [0]) ∨ digitLimit < ds.length then none else pure (ofDigits ds)

/-- The integer that a text without blanks and fraction denotes. -/
def wholeNumber? (t : List Char) : Option Int :=
  let (negative, body) := splitSign t
  match withoutZeros? body with
  | none => none
  | some ('-' :: rest) =>
    let digits := match rest with
      | '_' :: digits => digits
      | digits => digits
    if negative then none else (magnitude? digits).map (signed true)
  | some digits => (magnitude? digits).map (signed negative)

/-- The integer that an integer text denotes. -/
def integerOfText (s : String) : Except Issue.Kind Int :=
  if isOversized s.toList then .error .integerSize
  else
    let t := trim isBlank s.toList
    if isZeroFraction (t.dropWhile (· != '.')) then
      match wholeNumber? (t.takeWhile (· != '.')) with
      | some n => .ok n
      | none => .error .integerText
    else .error .integerText

/-- Two to the power 63, the first magnitude that is too large for a signed machine word. -/
def wordBound : Nat := 1 <<< 63

/-- The integer that a binary floating-point number is. -/
def integerOfBinary (x : Binary64) : Except Issue.Kind Int :=
  match x.truncate? with
  | none => .error .notFinite
  | some n =>
    if !x.isIntegral then .error .fraction
    else if n.natAbs < wordBound then .ok n
    else .error .integerSize

/-- The integer that a value means. -/
def integer : Json → Except Issue.Kind Int
  | .int n => .ok n
  | .bool b => .ok (if b then 1 else 0)
  | .decimal negative mantissa exponent =>
    integerOfBinary (Binary64.ofDecimal negative mantissa exponent)
  | .special _ => .error .notFinite
  | .text s => if s.isWellFormed then integerOfText s.toString else .error .brokenText
  | .null | .list _ | .object _ => .error .notInteger

/-- The integer that a value means, which must not be below zero. -/
def natural (v : Json) : Except Issue.Kind Int := do
  let n ← integer v
  if n < 0 then .error .negative else .ok n

/-- The integer that a value means, or none for null. -/
def optionalInteger : Json → Except Issue.Kind (Option Int)
  | .null => .ok none
  | v => (integer v).map some

/-! ## Truth values -/

/-- The words for true, in small letters. -/
def trueWords : List String := ["1", "on", "t", "true", "y", "yes"]

/-- The words for false, in small letters. -/
def falseWords : List String := ["0", "off", "f", "false", "n", "no"]

/-- The truth value that a text means; capitals count as small letters. -/
def booleanOfText (s : String) : Except Issue.Kind Bool :=
  let word := s.toLower
  if falseWords.contains word then .ok false
  else if trueWords.contains word then .ok true
  else .error .booleanText

/-- The truth value that an integer means; any other integer is misread as a word if it fits into a
machine word, and as nothing at all if it does not. -/
def booleanOfInteger (n : Int) : Except Issue.Kind Bool :=
  if n = 0 then .ok false
  else if n = 1 then .ok true
  else if -(wordBound : Int) ≤ n ∧ n < wordBound then .error .booleanText
  else .error .notBoolean

/-- The truth value that a value means. -/
def boolean : Json → Except Issue.Kind Bool
  | .bool b => .ok b
  | .text s => if s.isWellFormed then booleanOfText s.toString else .error .brokenText
  | .int n => booleanOfInteger n
  | .decimal negative mantissa exponent =>
    match integerOfBinary (Binary64.ofDecimal negative mantissa exponent) with
    | .ok n => booleanOfInteger n
    | .error _ => .error .notBoolean
  | .null | .special _ | .list _ | .object _ => .error .notBoolean

end SatRarity.Lenient
