set_option autoImplicit false

/-! # Loose texts

An escape in a JSON text can denote half of a surrogate pair, and so can a code unit of UTF-16.
Where the other half is missing, the surrogate stands on its own among the characters, and the text
cannot be written as UTF-8. A loose text is a text that may hold such surrogates; every ordinary
text is one.
-/

namespace SatRarity.Text

/-! ## Code points -/

/-- A code point of a loose text: a character, or a surrogate that lacks its other half. -/
inductive CodePoint
  | char (c : Char)
  | surrogate (n : Nat)
  deriving DecidableEq

namespace CodePoint

def isChar : CodePoint → Bool
  | char _ => true
  | surrogate _ => false

/-- The character, or U+FFFD in place of a surrogate. -/
def toChar : CodePoint → Char
  | char c => c
  | surrogate _ => '\uFFFD'

end CodePoint

/-! ## Texts -/

/-- A text that may hold surrogates on their own. -/
structure LooseText where
  points : List CodePoint
  deriving DecidableEq

namespace LooseText

def ofString (s : String) : LooseText := ⟨s.toList.map .char⟩

instance : Coe String LooseText := ⟨ofString⟩

/-- The text holds no surrogate. -/
def isWellFormed (t : LooseText) : Bool := t.points.all CodePoint.isChar

/-- The text with U+FFFD in place of every surrogate. -/
def toString (t : LooseText) : String := String.ofList (t.points.map CodePoint.toChar)

@[simp] theorem isWellFormed_ofString (s : String) : (ofString s).isWellFormed = true := by
  simp [isWellFormed, ofString, CodePoint.isChar]

@[simp] theorem toString_ofString (s : String) : (ofString s).toString = s := by
  simp [toString, ofString, Function.comp_def, CodePoint.toChar]

theorem ofString_injective {s t : String} (h : ofString s = ofString t) : s = t := by
  rw [← toString_ofString s, h, toString_ofString]

/-- A text without surrogates is an ordinary one. -/
theorem ofString_toString {t : LooseText} (h : t.isWellFormed = true) :
    ofString t.toString = t := by
  obtain ⟨points⟩ := t
  simp only [isWellFormed, List.all_eq_true] at h
  simp only [ofString, toString, String.toList_ofList, List.map_map, LooseText.mk.injEq]
  rw [List.map_congr_left (g := id), List.map_id]
  intro p hp
  have := h p hp
  cases p <;> simp_all [CodePoint.isChar, CodePoint.toChar]

end LooseText

end SatRarity.Text
