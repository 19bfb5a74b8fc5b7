import Mathlib.Data.Bool.Basic
import Mathlib.Data.Prod.Lex
import SatRarity.Classification
import SatRarity.Tier.Order

set_option autoImplicit false

/-! # Ranks and boundaries

Tiers rank as the boundaries do that they stand for: any last sat of a block above any first one, an
era above a period, and the very first sat above all other first ones. `Standing` is the key by
which this is an order, lexicographic in the end of the block, the era, the period and the genesis,
and `compares_classify` says that all comparisons of tiers agree with those of the keys.
-/

namespace SatRarity

/-! ## Comparisons -/

namespace Comparison

/-- What the comparison asks. -/
def Holds {α : Type} [LT α] [LE α] : Comparison → α → α → Prop
  | lt, a, b => a < b
  | le, a, b => a ≤ b
  | gt, a, b => b < a
  | ge, a, b => b ≤ a

/-- The answer that follows if it is known whether the first value is less, and whether both are
equal. -/
def answerBy (isLess isEqual : Bool) : Comparison → Bool
  | lt => isLess
  | le => isLess || isEqual
  | gt => !isLess && !isEqual
  | ge => !isLess

end Comparison

/-! ## Standings -/

/-- How a sat stands: the end of its block that it is at, zero for none, one for the first sat and
two for the last; whether an era and whether a period meets it there; and whether it is the very
first sat. They are compared in this order. -/
abbrev Standing : Type := ℕ ×ₗ Bool ×ₗ Bool ×ₗ Bool

def Standing.of (blockEnd : ℕ) (era period genesis : Bool) : Standing :=
  toLex (blockEnd, toLex (era, toLex (period, genesis)))

/-- How the sat at a coordinate stands, in a block of the given subsidy. -/
def Coordinate.standing (s : Schedule) (subsidy : ℤ) (c : Coordinate) : Standing :=
  if c.subsidyPosition = 0 then
    .of 1 (c.epochPosition = 0) (c.periodPosition = 0)
      (c.epochPosition = 0 ∧ c.periodPosition = 0 ∧ c.epoch = 0)
  else if c.subsidyPosition = subsidy - 1 then
    .of 2 (c.epochPosition = s.halvingInterval - 1) (c.periodPosition = s.diffchangeInterval - 1)
      false
  else .of 0 false false false

namespace Tier

/-- How the sats of a tier stand. -/
def standing : Tier → Standing
  | common => .of 0 false false false
  | uncommon => .of 1 false false false
  | rare => .of 1 false true false
  | epic => .of 1 true false false
  | legendary => .of 1 true true false
  | mythic => .of 1 true true true
  | blackUncommon => .of 2 false false false
  | blackRare => .of 2 false true false
  | blackEpic => .of 2 true false false
  | blackLegendary => .of 2 true true false

/-- Tiers are declared in the order of their standings. -/
theorem pairwise_standing_all : all.Pairwise fun s t => s.standing < t.standing := by decide

theorem standing_strictMono {s t : Tier} (h : s < t) : s.standing < t.standing := by
  obtain ⟨hs, hs'⟩ := List.getElem?_eq_some_iff.mp (getElem?_all_rank s)
  obtain ⟨ht, ht'⟩ := List.getElem?_eq_some_iff.mp (getElem?_all_rank t)
  have hlt := List.pairwise_iff_getElem.mp pairwise_standing_all s.rank t.rank hs ht h
  rwa [hs', ht'] at hlt

theorem standing_lt_iff {s t : Tier} : s.standing < t.standing ↔ s < t := by
  rcases Nat.lt_trichotomy s.rank t.rank with h | h | h
  · exact iff_of_true (standing_strictMono h) h
  · obtain rfl := rank_injective h
    exact iff_of_false (lt_irrefl _) (Nat.lt_irrefl _)
  · exact iff_of_false (standing_strictMono h).asymm (Nat.lt_asymm h)

theorem standing_le_iff {s t : Tier} : s.standing ≤ t.standing ↔ s ≤ t := by
  rw [← not_lt, standing_lt_iff, lt_def, le_def, Nat.not_lt]

theorem standing_inj {s t : Tier} : s.standing = t.standing ↔ s = t := by
  refine ⟨fun h => rank_injective (Nat.le_antisymm ?_ ?_), congrArg standing⟩
  · exact standing_le_iff.mp h.le
  · exact standing_le_iff.mp h.ge

/-- All comparisons of tiers agree with those of their standings. -/
theorem compares_iff {s t : Tier} (c : Comparison) :
    s.compares c t = true ↔ c.Holds s.standing t.standing := by
  cases c with
  | lt => exact decide_eq_true_iff.trans standing_lt_iff.symm
  | le => exact decide_eq_true_iff.trans standing_le_iff.symm
  | gt => exact decide_eq_true_iff.trans standing_lt_iff.symm
  | ge => exact decide_eq_true_iff.trans standing_le_iff.symm

/-- All comparisons of tiers follow from the one that asks for less, and from equality. -/
theorem compares_eq_answerBy (s t : Tier) (c : Comparison) :
    s.compares c t = c.answerBy (s.compares .lt t) (s == t) := by
  have heq : s = t ↔ s.rank = t.rank := ⟨congrArg rank, rank_injective⟩
  cases c <;>
    simp only [compares, Comparison.answerBy, lt_def, le_def, beq_eq_decide, heq,
      ← decide_not, ← Bool.decide_or, ← Bool.decide_and] <;>
    exact decide_eq_decide.mpr (by omega)

end Tier

/-! ## The standing of a classified sat -/

theorem Boundaries.standing_openingTier (b : Boundaries) :
    b.openingTier.standing = .of 1 b.era b.period false := by
  obtain ⟨_ | _, _ | _⟩ := b <;> rfl

theorem Boundaries.standing_closingTier (b : Boundaries) :
    b.closingTier.standing = .of 2 b.era b.period false := by
  obtain ⟨_ | _, _ | _⟩ := b <;> rfl

/-- A sat has a tier of its standing. -/
theorem standing_classify (s : Schedule) (u : ℤ) (c : Coordinate) :
    (classify s u c).standing = c.standing s u := by
  by_cases hfirst : c.subsidyPosition = 0
  · rw [classify, Coordinate.standing, if_pos hfirst, if_pos hfirst]
    by_cases hgenesis : c.epochPosition = 0 ∧ c.periodPosition = 0 ∧ c.epoch = 0
    · obtain ⟨hblock, hperiod, hepoch⟩ := hgenesis
      simp [Coordinate.opened, hblock, hperiod, hepoch, Tier.standing]
    · have hmythic : ¬(c.epoch = 0 ∧ c.opened = ⟨true, true⟩) := by
        rintro ⟨hepoch, hopened⟩
        simp only [Coordinate.opened, Boundaries.mk.injEq, decide_eq_true_eq] at hopened
        exact hgenesis ⟨hopened.1, hopened.2, hepoch⟩
      rw [if_neg hmythic, Boundaries.standing_openingTier, decide_eq_false hgenesis]
      rfl
  · rw [classify, Coordinate.standing, if_neg hfirst, if_neg hfirst]
    split
    · exact Boundaries.standing_closingTier _
    · rfl

/-- The tiers of two sats compare as their standings do, in each of the comparisons; they are equal
if the standings are; and no comparison knows more than less and equal do. -/
theorem compares_classify (s s' : Schedule) (u u' : ℤ) (c c' : Coordinate) :
    (classify s u c < classify s' u' c' ↔ c.standing s u < c'.standing s' u')
    ∧ (classify s u c = classify s' u' c' ↔ c.standing s u = c'.standing s' u')
    ∧ (∀ comparison, (classify s u c).compares comparison (classify s' u' c') = true
      ↔ comparison.Holds (c.standing s u) (c'.standing s' u'))
    ∧ (∀ comparison, (classify s u c).compares comparison (classify s' u' c')
      = comparison.answerBy (classify s u c < classify s' u' c')
          (classify s u c = classify s' u' c')) := by
  simp only [← standing_classify]
  refine ⟨Tier.standing_lt_iff.symm, Tier.standing_inj.symm, Tier.compares_iff, fun comparison => ?_⟩
  exact Tier.compares_eq_answerBy _ _ comparison

end SatRarity
