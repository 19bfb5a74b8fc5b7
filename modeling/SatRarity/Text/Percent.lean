set_option autoImplicit false

/-! # Percent-encoding

A link holds ASCII characters only. A character that may not stand in it is written as the bytes of
its UTF-8 form, each as a percent sign and two hexadecimal digits.
-/

namespace SatRarity.Text

/-- The marks that stand for themselves in a link besides letters and digits. -/
def linkMarks : List Char := "_.-~:/%#?=@[]!$&'()*+,;".toList

def isLinkChar (c : Char) : Bool := c.isAlphanum || linkMarks.contains c

/-- A byte as a percent sign and two hexadecimal digits. -/
def percentByte (b : UInt8) : List Char :=
  let n := b.toNat
  ['%', (Nat.digitChar (n / 16)).toUpper, (Nat.digitChar (n % 16)).toUpper]

/-- The written form of a character in a link. -/
def percentChar (c : Char) : List Char :=
  if isLinkChar c then [c] else (String.singleton c).toUTF8.data.toList.flatMap percentByte

/-- The marks that would end the path of a link, or part it. -/
def pathEnds : List Char := ['?', '#', '\\']

/-- A path in which no character ends it: such characters are written by a percent sign. -/
def linkPath (path : List Char) : List Char :=
  path.flatMap fun c => if pathEnds.contains c then percentByte c.toNat.toUInt8 else [c]

def percentEncode (s : String) : String := String.ofList (s.toList.flatMap percentChar)

end SatRarity.Text
