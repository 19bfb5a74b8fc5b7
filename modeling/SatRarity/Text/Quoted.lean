import SatRarity.Text.Loose
import SatRarity.Text.Printable

set_option autoImplicit false

/-! # Quoted texts

A text is quoted on one line, without loss. It stands between apostrophes, or between double
quotes if it holds an apostrophe and no double quote. Inside, the mark and the backslash are
escaped by a backslash, and every unprintable character is written by its code point: a line
feed, carriage return or tab by a letter, any other with two, four or eight hexadecimal digits. A
surrogate that stands on its own counts as unprintable.
-/

namespace SatRarity.Text

/-! ## Single characters -/

/-- The last `width` hexadecimal digits of `n`, most significant first. -/
def hexDigits : Nat → Nat → List Char
  | 0, _ => []
  | width + 1, n => hexDigits width (n / 16) ++ [Nat.digitChar (n % 16)]

/-- The written form of an unprintable character that has no letter of its own. -/
def codePointEscape (n : Nat) : List Char :=
  if n < 0x100 then '\\' :: 'x' :: hexDigits 2 n
  else if n < 0x10000 then '\\' :: 'u' :: hexDigits 4 n
  else '\\' :: 'U' :: hexDigits 8 n

/-- The written form of one character between two marks `mark`. -/
def escapeChar (mark c : Char) : List Char :=
  if c = mark ∨ c = '\\' then ['\\', c]
  else if c = '\n' then ['\\', 'n']
  else if c = '\r' then ['\\', 'r']
  else if c = '\t' then ['\\', 't']
  else if isPrintable c then [c]
  else codePointEscape c.toNat

/-! ## Whole texts -/

/-- The mark that stands at both ends: double quotes only where they save escaping apostrophes. -/
def quoteMark (t : List Char) : Char :=
  if t.contains '\'' && !t.contains '"' then '"' else '\''

/-- The quoted form of a text, as characters. -/
def quoteChars (t : List Char) : List Char :=
  let mark := quoteMark t
  mark :: (t.flatMap (escapeChar mark) ++ [mark])

def quote (s : String) : String := String.ofList (quoteChars s.toList)

/-- The written form of one code point between two marks. -/
def escapePoint (mark : Char) : CodePoint → List Char
  | .char c => escapeChar mark c
  | .surrogate n => codePointEscape n

/-- The quoted form of a loose text, as characters. -/
def quotePoints (t : LooseText) : List Char :=
  let mark := quoteMark t.toString.toList
  mark :: (t.points.flatMap (escapePoint mark) ++ [mark])

@[simp] theorem toList_quote (s : String) : (quote s).toList = quoteChars s.toList := by
  simp [quote]

end SatRarity.Text
