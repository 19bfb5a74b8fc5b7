set_option autoImplicit false

/-! # Blank characters and trimming

Two classes of white space are in use. `isBlank` holds the characters that may surround a
numeral; `isSpacing` adds the four separator controls U+001C to U+001F, which are cut from a
whole text before it is looked at but are no part of a numeral. The rest of the module is `trim`,
which cuts a class of characters from both ends of a text and from nowhere else.
-/

namespace SatRarity.Text

/-! ## The classes -/

/-- The code points of the characters that may stand around a numeral. -/
def blanks : List Nat :=
  [0x20, 0x09, 0x0A, 0x0B, 0x0C, 0x0D, 0x85, 0xA0, 0x1680, 0x2000, 0x2001, 0x2002, 0x2003, 0x2004,
    0x2005, 0x2006, 0x2007, 0x2008, 0x2009, 0x200A, 0x2028, 0x2029, 0x202F, 0x205F, 0x3000]

/-- A character that may stand around a numeral. -/
def isBlank (c : Char) : Bool := blanks.contains c.toNat

/-- A character that is cut from the ends of a whole text: a blank or a separator control. -/
def isSpacing (c : Char) : Bool := isBlank c || (0x1C ≤ c.toNat && c.toNat ≤ 0x1F)

theorem isSpacing_of_isBlank {c : Char} (h : isBlank c = true) : isSpacing c = true := by
  simp [isSpacing, h]

/-! ## Trimming -/

/-- The text without the characters of the class `p` at its end. -/
def trimRight (p : Char → Bool) (t : List Char) : List Char := (t.reverse.dropWhile p).reverse

/-- The text without the characters of the class `p` at its two ends. -/
def trim (p : Char → Bool) (t : List Char) : List Char := trimRight p (t.dropWhile p)

end SatRarity.Text
