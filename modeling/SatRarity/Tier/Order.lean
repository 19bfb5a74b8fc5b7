import SatRarity.Comparison
import SatRarity.Json.Value
import SatRarity.Tier

set_option autoImplicit false

/-! # The order of the tiers

A tier has a rank, its place among all tiers, and tiers compare as their ranks do. The black tiers
rank above the others. A list of tiers is summarised by its ascending and descending arrangement,
its least and greatest member and the number of different tiers in it.

A tier does not compare with a value of any other kind: it is merely different from it.
-/

namespace SatRarity.Tier

/-! ## Ranks -/

/-- The place of the tier among all tiers, the least rank first. -/
def rank : Tier → Nat
  | common => 0
  | uncommon => 1
  | rare => 2
  | epic => 3
  | legendary => 4
  | mythic => 5
  | blackUncommon => 6
  | blackRare => 7
  | blackEpic => 8
  | blackLegendary => 9

instance : LT Tier := ⟨fun s t => s.rank < t.rank⟩

instance : LE Tier := ⟨fun s t => s.rank ≤ t.rank⟩

instance (s t : Tier) : Decidable (s < t) := inferInstanceAs (Decidable (s.rank < t.rank))

instance (s t : Tier) : Decidable (s ≤ t) := inferInstanceAs (Decidable (s.rank ≤ t.rank))

theorem lt_def (s t : Tier) : s < t ↔ s.rank < t.rank := Iff.rfl

theorem le_def (s t : Tier) : s ≤ t ↔ s.rank ≤ t.rank := Iff.rfl

theorem rank_injective {s t : Tier} (h : s.rank = t.rank) : s = t := by
  cases s <;> cases t <;> simp_all [rank]

theorem getElem?_all_rank (t : Tier) : all[t.rank]? = some t := by cases t <;> rfl

/-! ## Lists of tiers -/

def ascending (ts : List Tier) : List Tier := ts.mergeSort fun s t => decide (s ≤ t)

def descending (ts : List Tier) : List Tier := ts.mergeSort fun s t => decide (t ≤ s)

def lesser (s t : Tier) : Tier := if t < s then t else s

def greater (s t : Tier) : Tier := if s < t then t else s

def least? : List Tier → Option Tier
  | [] => none
  | t :: ts => some (ts.foldl lesser t)

def greatest? : List Tier → Option Tier
  | [] => none
  | t :: ts => some (ts.foldl greater t)

/-- The number of different tiers in a list. -/
def countDistinct (ts : List Tier) : Nat := (all.filter fun t => ts.contains t).length

/-! ## Comparisons -/

/-- The answer to a question about the order of two tiers. -/
def compares (s : Tier) (c : Comparison) (t : Tier) : Bool :=
  match c with
  | .lt => s < t
  | .le => s ≤ t
  | .gt => t < s
  | .ge => t ≤ s

/-- A question about the order of a tier and a value of another kind. -/
def incomparable (c : Comparison) (other : Json) : Incomparable := ⟨c, "Rarity", other.kind⟩

end SatRarity.Tier
