import SatRarity.Json.Shortest
import SatRarity.Json.Value
import SatRarity.Text.Quoted

set_option autoImplicit false

/-! # Written JSON

There are two layouts. The compact one puts nothing between tokens. The indented one puts every
item of a list and every field of an object on a line of its own, two spaces deeper than the line
that opens it, and a space after the colon; an empty list or object stays on its line.

A decimal is written as the shortest one that denotes the same binary floating-point number. The
written form is a list of code points, as a text in the value may hold surrogates; in a string,
U+FFFD takes the place of each of them.
-/

namespace SatRarity.Json

open Text

/-! ## Layouts -/

/-- How the tokens of a value are set apart. -/
inductive Layout
  | compact
  | indented
  deriving DecidableEq

def plain (t : List Char) : List CodePoint := t.map .char

/-- What stands before an item at the given depth, and before the bracket that closes it. -/
def Layout.lineBreak : Layout → Nat → List CodePoint
  | compact, _ => []
  | indented, depth => plain ('\n' :: List.replicate (2 * depth) ' ')

/-- What stands between a key and its value. -/
def Layout.colon : Layout → List CodePoint
  | compact => plain [':']
  | indented => plain [':', ' ']

/-! ## Tokens -/

/-- The written form of one character of a text. -/
def writeChar (c : Char) : List Char :=
  if c = '"' ∨ c = '\\' then ['\\', c]
  else if c = '\n' then ['\\', 'n']
  else if c = '\r' then ['\\', 'r']
  else if c = '\t' then ['\\', 't']
  else if c = '\x08' then ['\\', 'b']
  else if c = '\x0c' then ['\\', 'f']
  else if c.toNat < 0x20 then '\\' :: 'u' :: hexDigits 4 c.toNat
  else [c]

/-- The written form of one code point of a text: a surrogate stands for itself. -/
def writePoint : CodePoint → List CodePoint
  | .char c => plain (writeChar c)
  | .surrogate n => [.surrogate n]

def writeText (s : LooseText) : List CodePoint :=
  plain ['"'] ++ s.points.flatMap writePoint ++ plain ['"']

/-! ## Values -/

mutual

/-- The written form of a value whose opening token stands at the given depth. -/
def writeValue (layout : Layout) (depth : Nat) : Json → List CodePoint
  | null => plain "null".toList
  | bool b => plain (if b then "true" else "false").toList
  | int n => plain (toString n).toList
  | decimal negative mantissa exponent =>
    plain (Binary64.ofDecimal negative mantissa exponent).toDecimal
  | special s => plain s.name.toList
  | text s => writeText s
  | list [] => plain ['[', ']']
  | list (item :: items) =>
    plain ['['] ++ layout.lineBreak (depth + 1) ++ writeValue layout (depth + 1) item
      ++ writeItems layout (depth + 1) items ++ layout.lineBreak depth ++ plain [']']
  | object [] => plain ['\x7b', '\x7d']
  | object ((key, value) :: fields) =>
    plain ['\x7b'] ++ layout.lineBreak (depth + 1) ++ writeText key ++ layout.colon
      ++ writeValue layout (depth + 1) value
      ++ writeFields layout (depth + 1) fields ++ layout.lineBreak depth ++ plain ['\x7d']

/-- The written form of the items after the first. -/
def writeItems (layout : Layout) (depth : Nat) : List Json → List CodePoint
  | [] => []
  | item :: items =>
    plain [','] ++ layout.lineBreak depth ++ writeValue layout depth item
      ++ writeItems layout depth items

/-- The written form of the fields after the first. -/
def writeFields (layout : Layout) (depth : Nat) : List (LooseText × Json) → List CodePoint
  | [] => []
  | (key, value) :: fields =>
    plain [','] ++ layout.lineBreak depth ++ writeText key ++ layout.colon
      ++ writeValue layout depth value ++ writeFields layout depth fields

end

/-- The value in the given layout. -/
def write (layout : Layout) (v : Json) : LooseText := ⟨writeValue layout 0 v⟩

/-- The value on one line without spaces. -/
def compact (v : Json) : String := (write .compact v).toString

/-- The value with one item to a line. -/
def indented (v : Json) : String := (write .indented v).toString

end SatRarity.Json
