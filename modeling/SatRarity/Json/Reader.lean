import SatRarity.Json.Value
import SatRarity.Text.Numeral
import SatRarity.Text.Unit

set_option autoImplicit false

/-! # Reading JSON

The reader takes the standard's grammar and the three special numbers. White space is space, tab,
line feed and carriage return; a text holds no bare control character; an escaped surrogate pair is
one character, and an escaped surrogate on its own stays one. A surrogate that is not escaped may
stand in a text as well, and nowhere else. An integer literal of more than `digitLimit` digits and a
bracket or brace that stands too deep in others stop the reading with errors of their own, as soon
as they are met.

Reading a value takes fuel, one unit for each value, item or field that is entered; `readPoints`
gives two units for each code point, which no text can use up.
-/

namespace SatRarity.Json

open Text

/-- Why a text was not read. -/
inductive ReadError
  | malformed
  | integerTooLong
  /-- Lists and objects stand too deep in each other. -/
  | tooDeep
  deriving DecidableEq

/-! ## Tokens -/

/-- What is still to be read. -/
abbrev Source := List CodePoint

/-- A white space character between tokens. -/
def isSpace : CodePoint → Bool
  | .char c => c == ' ' || c == '\t' || c == '\n' || c == '\r'
  | .surrogate _ => false

/-- The source from its next token on. -/
def skipSpace (t : Source) : Source := t.dropWhile isSpace

/-- The source after the given characters, if it begins with them. -/
def after? : List Char → Source → Option Source
  | [], t => some t
  | c :: word, .char d :: t => if c = d then after? word t else none
  | _ :: _, _ => none

/-- The values of the ASCII digits that begin the source, and the source after them. -/
def splitDigits : Source → List Nat × Source
  | .char c :: rest => match asciiDigitValue? c with
    | some d => (d :: (splitDigits rest).1, (splitDigits rest).2)
    | none => ([], .char c :: rest)
  | t => ([], t)

/-! ## Texts -/

def hexValue? : CodePoint → Option Nat
  | .char c =>
    if c.isDigit then some (c.toNat - '0'.toNat)
    else if 'a' ≤ c ∧ c ≤ 'f' then some (c.toNat - 'a'.toNat + 10)
    else if 'A' ≤ c ∧ c ≤ 'F' then some (c.toNat - 'A'.toNat + 10)
    else none
  | .surrogate _ => none

/-- The code unit that four hexadecimal digits denote. -/
def codeUnit? (a b c d : CodePoint) : Option Nat := do
  let a ← hexValue? a
  let b ← hexValue? b
  let c ← hexValue? c
  let d ← hexValue? d
  pure (((a * 16 + b) * 16 + c) * 16 + d)

/-- The character that a one-letter escape stands for. -/
def letterEscape? : Char → Option Char
  | '"' => some '"'
  | '\\' => some '\\'
  | '/' => some '/'
  | 'b' => some '\x08'
  | 'f' => some '\x0c'
  | 'n' => some '\n'
  | 'r' => some '\r'
  | 't' => some '\t'
  | _ => none

/-- The code point may stand in a text as it is. -/
def isBare : CodePoint → Bool
  | .char c => c != '\\' && 0x20 ≤ c.toNat
  | .surrogate _ => true

/-- The code points and escaped code units up to the closing quote, and the source after it. -/
def readPieces : Source → Except ReadError (List Piece × Source)
  | [] => .error .malformed
  | .char '"' :: rest => .ok ([], rest)
  | .char '\\' :: .char 'u' :: a :: b :: c :: d :: rest =>
    match codeUnit? a b c d with
    | some n => (readPieces rest).map fun (pieces, after) => (.unit n :: pieces, after)
    | none => .error .malformed
  | .char '\\' :: .char c :: rest =>
    match letterEscape? c with
    | some e => (readPieces rest).map fun (pieces, after) => (.point (.char e) :: pieces, after)
    | none => .error .malformed
  | p :: rest =>
    if isBare p then (readPieces rest).map fun (pieces, after) => (.point p :: pieces, after)
    else .error .malformed

/-- The text whose opening quote has just been passed. -/
def readText (t : Source) : Except ReadError (LooseText × Source) :=
  (readPieces t).map fun (pieces, after) => (⟨joinPairs pieces⟩, after)

/-! ## Numbers -/

/-- The digits of the fraction that begins the source, if one does. -/
def splitFraction (t : Source) : Option (List Nat × Source) :=
  match t with
  | .char '.' :: rest =>
    let (digits, after) := splitDigits rest
    if digits.isEmpty then none else some (digits, after)
  | _ => none

/-- Whether a minus sign stands first, and the source after an optional sign. -/
def splitExponentSign : Source → Bool × Source
  | .char '-' :: rest => (true, rest)
  | .char '+' :: rest => (false, rest)
  | t => (false, t)

/-- The value of the exponent that begins the source, if one does. -/
def splitExponent (t : Source) : Option (Int × Source) :=
  match t with
  | .char e :: rest =>
    if e = 'e' ∨ e = 'E' then
      let (negative, body) := splitExponentSign rest
      let (digits, after) := splitDigits body
      if digits.isEmpty then none else some (signed negative (ofDigits digits), after)
    else none
  | _ => none

/-- The digits before the point: a zero, or a run that does not begin with one. -/
def splitWhole : Source → List Nat × Source
  | .char '0' :: rest => ([0], rest)
  | t => splitDigits t

/-- The number that begins the source after its sign. -/
def readMagnitude (negative : Bool) (t : Source) : Except ReadError (Json × Source) :=
  let (whole, rest) := splitWhole t
  if whole.isEmpty then .error .malformed
  else match splitFraction rest with
    | some (fraction, rest) =>
      let mantissa := ofDigits (whole ++ fraction)
      let (exponent, rest) := (splitExponent rest).getD (0, rest)
      .ok (decimal negative mantissa (exponent - fraction.length), rest)
    | none => match splitExponent rest with
      | some (exponent, rest) => .ok (decimal negative (ofDigits whole) exponent, rest)
      | none =>
        if digitLimit < whole.length then .error .integerTooLong
        else .ok (int (signed negative (ofDigits whole)), rest)

/-- The number that begins the source. -/
def readNumber : Source → Except ReadError (Json × Source)
  | .char '-' :: rest => readMagnitude true rest
  | t => readMagnitude false t

/-! ## Values -/

/-- The values that are written as words. -/
def words : List (String × Json) :=
  [("null", null), ("true", bool true), ("false", bool false), ("NaN", special .nan),
    ("Infinity", special .infinity), ("-Infinity", special .negativeInfinity)]

/-- The value whose word begins the source, if one does. -/
def readWord? (t : Source) : Option (Json × Source) :=
  words.findSome? fun (word, v) => (after? word.toList t).map fun rest => (v, rest)

mutual

/-- The value that begins the source; lists and objects may stand `depth` deep in it. -/
def readValue : Nat → Nat → Source → Except ReadError (Json × Source)
  | 0, _, _ => .error .malformed
  | fuel + 1, depth, t => match t, depth with
    | .char '"' :: rest, _ => (readText rest).map fun (s, after) => (text s, after)
    | .char '[' :: _, 0 => .error .tooDeep
    | .char '[' :: rest, depth + 1 => match skipSpace rest with
      | .char ']' :: after => .ok (list [], after)
      | items => (readItems fuel depth items).map fun (vs, after) => (list vs, after)
    | .char '\x7b' :: _, 0 => .error .tooDeep
    | .char '\x7b' :: rest, depth + 1 => match skipSpace rest with
      | .char '\x7d' :: after => .ok (object [], after)
      | fields => (readFields fuel depth fields).map fun (fs, after) => (ofFields fs, after)
    | t, _ => match readWord? t with
      | some result => .ok result
      | none => readNumber t

/-- The items up to the closing bracket; the source begins with one. -/
def readItems : Nat → Nat → Source → Except ReadError (List Json × Source)
  | 0, _, _ => .error .malformed
  | fuel + 1, depth, t => do
    let (item, rest) ← readValue fuel depth t
    match skipSpace rest with
    | .char ',' :: rest =>
      let (items, after) ← readItems fuel depth (skipSpace rest)
      pure (item :: items, after)
    | .char ']' :: after => pure ([item], after)
    | _ => .error .malformed

/-- The fields up to the closing brace; the source begins with one. -/
def readFields : Nat → Nat → Source → Except ReadError (List (LooseText × Json) × Source)
  | 0, _, _ => .error .malformed
  | fuel + 1, depth, t => match t with
    | .char '"' :: rest => do
      let (key, rest) ← readText rest
      match skipSpace rest with
      | .char ':' :: rest =>
        let (value, rest) ← readValue fuel depth (skipSpace rest)
        match skipSpace rest with
        | .char ',' :: rest =>
          let (fields, after) ← readFields fuel depth (skipSpace rest)
          pure ((key, value) :: fields, after)
        | .char '\x7d' :: after => pure ([(key, value)], after)
        | _ => .error .malformed
      | _ => .error .malformed
    | _ => .error .malformed

end

/-- The value that a whole source is, if lists and objects stand at most `depth` deep in it. -/
def readPoints (depth : Nat) (t : Source) : Except ReadError Json := do
  let (v, rest) ← readValue (2 * t.length + 2) depth (skipSpace t)
  if (skipSpace rest).isEmpty then pure v else .error .malformed

/-- The value that a whole text is, however deep lists and objects stand in it. -/
def read (s : String) : Except ReadError Json :=
  readPoints s.length (LooseText.ofString s).points

end SatRarity.Json
