set_option autoImplicit false

/-! # Rarity tiers

There are ten tiers. Six rank the first sat of a block, or a sat of no rank at all, and have small
integer codes; four black tiers rank the last sat of a block and have none. Every tier has a
canonical name, and a name or a code is recognised only if it is exactly the one of a tier.
-/

namespace SatRarity

/-- The rarity of a sat, from the least to the greatest rank. -/
inductive Tier
  | common
  | uncommon
  | rare
  | epic
  | legendary
  | mythic
  | blackUncommon
  | blackRare
  | blackEpic
  | blackLegendary
  deriving DecidableEq

namespace Tier

/-! ## Attributes -/

/-- All tiers, from the least rank to the greatest. -/
def all : List Tier :=
  [common, uncommon, rare, epic, legendary, mythic,
    blackUncommon, blackRare, blackEpic, blackLegendary]

def name : Tier → String
  | common => "common"
  | uncommon => "uncommon"
  | rare => "rare"
  | epic => "epic"
  | legendary => "legendary"
  | mythic => "mythic"
  | blackUncommon => "black_uncommon"
  | blackRare => "black_rare"
  | blackEpic => "black_epic"
  | blackLegendary => "black_legendary"

def capitals (t : Tier) : String := t.name.toUpper

/-- The code, which the black tiers lack. -/
def code? : Tier → Option Nat
  | common => some 0
  | uncommon => some 1
  | rare => some 2
  | epic => some 3
  | legendary => some 4
  | mythic => some 5
  | blackUncommon | blackRare | blackEpic | blackLegendary => none

/-- The tier ranks the last sat of a block. -/
def isBlack : Tier → Bool
  | blackUncommon | blackRare | blackEpic | blackLegendary => true
  | common | uncommon | rare | epic | legendary | mythic => false

/-- The tiers that have a code. -/
def firstPosition : List Tier := all.filter fun t => !t.isBlack

/-- The tiers that rank the last sat of a block. -/
def black : List Tier := all.filter isBlack

/-! ## Recognition -/

/-- A text that names no tier. -/
structure UnknownName where
  text : String
  deriving DecidableEq

/-- An integer that is the code of no tier. -/
structure UnknownCode where
  value : Int
  deriving DecidableEq

def UnknownName.message (e : UnknownName) : String := "invalid rarity `" ++ e.text ++ "`"

def UnknownCode.message (e : UnknownCode) : String := "invalid rarity code " ++ toString e.value

def ofName (text : String) : Except UnknownName Tier :=
  match all.find? fun t => t.name == text with
  | some t => .ok t
  | none => .error ⟨text⟩

def ofCode (value : Int) : Except UnknownCode Tier :=
  match all.find? fun t => t.code?.any fun code => (code : Int) == value with
  | some t => .ok t
  | none => .error ⟨value⟩

@[simp] theorem mem_all (t : Tier) : t ∈ all := by cases t <;> decide

theorem ofName_name (t : Tier) : ofName t.name = .ok t := by cases t <;> rfl

theorem code?_eq_none_iff (t : Tier) : t.code? = none ↔ t.isBlack = true := by
  cases t <;> simp [code?, isBlack]

end Tier

end SatRarity
