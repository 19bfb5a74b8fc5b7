import Mathlib.Order.Interval.Finset.Nat
import SatRarity.Proofs.Boundary

set_option autoImplicit false

/-! # The rules of classification

The tier of a sat can be read off a flat list of rules, of which the first that applies counts,
`firstTier?_rules`. Nothing is assumed of the coordinate or of the subsidy. In a block the rules for
first sats come before the rules for last sats; so a block has one ranked first sat, a last sat of
its own if it has two sats, and the rest is common. `ranked_by_rules` says both.
-/

namespace SatRarity

open Finset

/-! ## Rules -/

/-- A rule for one sat: whether it applies, and the tier that it gives. -/
structure Rule where
  applies : Bool
  tier : Tier

/-- The rules for the sat at a coordinate, in a block of the given subsidy. -/
def rules (s : Schedule) (u : ℤ) (c : Coordinate) : List Rule :=
  [⟨c.epoch = 0 ∧ c.epochPosition = 0 ∧ c.periodPosition = 0 ∧ c.subsidyPosition = 0, .mythic⟩,
    ⟨c.epochPosition = 0 ∧ c.periodPosition = 0 ∧ c.subsidyPosition = 0, .legendary⟩,
    ⟨c.epochPosition = 0 ∧ c.subsidyPosition = 0, .epic⟩,
    ⟨c.periodPosition = 0 ∧ c.subsidyPosition = 0, .rare⟩,
    ⟨c.subsidyPosition = 0, .uncommon⟩,
    ⟨c.subsidyPosition = u - 1 ∧ c.epochPosition = s.halvingInterval - 1
      ∧ c.periodPosition = s.diffchangeInterval - 1, .blackLegendary⟩,
    ⟨c.subsidyPosition = u - 1 ∧ c.epochPosition = s.halvingInterval - 1, .blackEpic⟩,
    ⟨c.subsidyPosition = u - 1 ∧ c.periodPosition = s.diffchangeInterval - 1, .blackRare⟩,
    ⟨c.subsidyPosition = u - 1, .blackUncommon⟩,
    ⟨true, .common⟩]

/-- The tier that the first rule gives that applies. -/
def firstTier? (rs : List Rule) : Option Tier := (rs.find? Rule.applies).map Rule.tier

@[simp] theorem firstTier?_cons (r : Rule) (rs : List Rule) :
    firstTier? (r :: rs) = if r.applies then some r.tier else firstTier? rs := by
  unfold firstTier?
  rw [List.find?_cons]
  split <;> simp_all

variable (s : Schedule) (u : ℤ) (c : Coordinate)

/-- The rules for first sats are about the boundaries that the block opens. -/
theorem firstTier?_rules_of_first (h : c.subsidyPosition = 0) :
    firstTier? (rules s u c)
      = some (if c.epoch = 0 ∧ c.opened = ⟨true, true⟩ then .mythic else c.opened.openingTier) := by
  by_cases hera : c.epochPosition = 0 <;> by_cases hperiod : c.periodPosition = 0 <;>
    by_cases hepoch : c.epoch = 0 <;>
    simp [rules, Coordinate.opened, Boundaries.openingTier, h, hera, hperiod, hepoch]

/-- The rules for last sats are about the boundaries that the block closes. -/
theorem firstTier?_rules_of_last (h : c.subsidyPosition ≠ 0) (hlast : c.subsidyPosition = u - 1) :
    firstTier? (rules s u c) = some (c.closed s).closingTier := by
  rw [hlast] at h
  by_cases hera : c.epochPosition = s.halvingInterval - 1 <;>
    by_cases hperiod : c.periodPosition = s.diffchangeInterval - 1 <;>
    simp [rules, Coordinate.closed, Boundaries.closingTier, h, hlast, hera, hperiod]

/-- What is neither first nor last is left to the last rule. -/
theorem firstTier?_rules_of_inner (h : c.subsidyPosition ≠ 0) (hlast : c.subsidyPosition ≠ u - 1) :
    firstTier? (rules s u c) = some .common := by
  simp [rules, h, hlast]

theorem firstTier?_rules : firstTier? (rules s u c) = some (classify s u c) := by
  rw [classify]
  split
  case isTrue h => exact firstTier?_rules_of_first s u c h
  case isFalse h =>
    split
    case isTrue hlast => exact firstTier?_rules_of_last s u c h hlast
    case isFalse hlast => exact firstTier?_rules_of_inner s u c h hlast

/-! ## The sats of a block -/

/-- The positions in a block of the given subsidy at which the tier is of the given kind. -/
def positionsOf (u : ℕ) (p : Tier → Prop) [DecidablePred p] : Finset ℕ :=
  {i ∈ range u | p (classify s u (c.sat i))}

namespace Tier

/-- The tier ranks a first sat, and is none of those that rank no sat at all. -/
def IsOpening (t : Tier) : Prop := t ∈ firstPosition ∧ t ≠ common

instance (t : Tier) : Decidable t.IsOpening := inferInstanceAs (Decidable (_ ∧ _))

theorem isOpening_iff {t : Tier} : t.IsOpening ↔ t.isBlack = false ∧ t ≠ common := by
  simp [IsOpening, firstPosition]

theorem mem_black_iff {t : Tier} : t ∈ black ↔ t.isBlack = true := by
  simp [black]

end Tier

/-- At the first position of a block stands a ranked first sat, even if it is the last one too. -/
theorem isOpening_first (h : c.subsidyPosition = 0) : (classify s u c).IsOpening := by
  rw [classify, if_pos h, Tier.isOpening_iff]
  split
  · decide
  · exact ⟨Boundaries.isBlack_openingTier _, Boundaries.openingTier_ne_common _⟩

/-- The position in the subsidy tells of which kind the tier is, whatever the coordinate and the
subsidy are. -/
theorem kind_classify :
    ((classify s u c).IsOpening ↔ c.subsidyPosition = 0)
      ∧ (classify s u c ∈ Tier.black ↔ c.subsidyPosition ≠ 0 ∧ c.subsidyPosition = u - 1)
      ∧ (classify s u c = .common ↔ c.subsidyPosition ≠ 0 ∧ c.subsidyPosition ≠ u - 1) := by
  by_cases hfirst : c.subsidyPosition = 0
  · have hopening := isOpening_first s u c hfirst
    have hkind := Tier.isOpening_iff.mp hopening
    simp [hopening, hfirst, Tier.mem_black_iff, hkind]
  · rw [classify, if_neg hfirst, Tier.isOpening_iff, Tier.mem_black_iff]
    by_cases hlast : c.subsidyPosition = u - 1
    · have hblack := Boundaries.isBlack_closingTier (c.closed s)
      have hcommon := Boundaries.closingTier_ne_common (c.closed s)
      rw [if_pos hlast]
      simp [hblack, hcommon, hfirst, ← hlast]
    · rw [if_neg hlast]
      simp [Tier.isBlack, hfirst, hlast]

/-- Only the first sat of all is above the boundaries that its block opens. -/
theorem classify_eq_mythic_iff : classify s u c = .mythic ↔ ∀ f, c.get f = 0 := by
  have hzero : (∀ f, c.get f = 0)
      ↔ c.subsidyPosition = 0 ∧ c.epoch = 0 ∧ c.opened = ⟨true, true⟩ := by
    simp only [Coordinate.Field.forall_iff, Coordinate.get, Coordinate.opened,
      Boundaries.mk.injEq, decide_eq_true_eq]
    omega
  rw [hzero, classify]
  by_cases hfirst : c.subsidyPosition = 0
  · rw [if_pos hfirst, and_iff_right hfirst]
    by_cases hopened : c.epoch = 0 ∧ c.opened = ⟨true, true⟩
    · rw [if_pos hopened]
      exact iff_of_true rfl hopened
    · rw [if_neg hopened]
      exact iff_of_false (Boundaries.openingTier_ne_mythic _) hopened
  · rw [if_neg hfirst]
    refine iff_of_false ?_ fun h => hfirst h.1
    split
    · exact Boundaries.closingTier_ne_mythic _
    · decide

/-- Where a sat stands in its block tells of which kind its tier is. -/
theorem kind_sat (u i : ℕ) :
    ((classify s u (c.sat i)).IsOpening ↔ i = 0)
      ∧ (classify s u (c.sat i) ∈ Tier.black ↔ 0 < i ∧ i + 1 = u)
      ∧ (classify s u (c.sat i) = .common ↔ 0 < i ∧ i + 1 ≠ u) := by
  have hposition : (c.sat i).subsidyPosition = i := rfl
  obtain ⟨hopening, hblack, hcommon⟩ := kind_classify s u (c.sat i)
  rw [hopening, hblack, hcommon, hposition]
  omega

theorem positionsOf_isOpening {u : ℕ} (hu : 0 < u) :
    positionsOf s c u Tier.IsOpening = {0} := by
  ext i
  simp only [positionsOf, mem_filter, mem_range, mem_singleton, kind_sat]
  omega

theorem positionsOf_black (u : ℕ) : positionsOf s c u (· ∈ Tier.black) = Ico (max 1 (u - 1)) u := by
  ext i
  simp only [positionsOf, mem_filter, mem_range, mem_Ico, kind_sat]
  omega

theorem positionsOf_common (u : ℕ) : positionsOf s c u (· = .common) = Ioo 0 (u - 1) := by
  ext i
  simp only [positionsOf, mem_filter, mem_range, mem_Ioo, kind_sat]
  omega

/-! ## The classification by rules -/

/-- The tier of a sat is the one that the first rule gives that applies, whatever the coordinate and
the subsidy are. Among the sats of a block one is a ranked first sat, one is black if there are two
or more, and the others are common. -/
theorem ranked_by_rules (s : Schedule) :
    (∀ (u : ℤ) (c : Coordinate), firstTier? (rules s u c) = some (classify s u c))
      ∧ ∀ (c : Coordinate) (u : ℕ), 0 < u →
        #(positionsOf s c u Tier.IsOpening) = 1
        ∧ #(positionsOf s c u (· ∈ Tier.black)) = min 1 (u - 1)
        ∧ (#(positionsOf s c u (· = .common)) : ℤ) = max 0 ((u : ℤ) - 2) := by
  refine ⟨fun u c => firstTier?_rules s u c, fun c u hu => ⟨?_, ?_, ?_⟩⟩
  · rw [positionsOf_isOpening s c hu, card_singleton]
  · rw [positionsOf_black, Nat.card_Ico]
    omega
  · rw [positionsOf_common, Nat.card_Ioo]
    omega

/-- In a block of one sat the rules for first sats come first: the last block of an era and of a
period has no black sat. -/
theorem ranked_by_rules_single_sat :
    firstTier? (rules .short 1 ⟨1, 5, 3, 0⟩) = some .uncommon
      ∧ #(positionsOf .short ⟨1, 5, 3, 0⟩ 1 Tier.IsOpening) = 1
      ∧ #(positionsOf .short ⟨1, 5, 3, 0⟩ 1 (· ∈ Tier.black)) = 0 := by
  obtain ⟨hrules, hcount⟩ := ranked_by_rules .short
  obtain ⟨hopening, hblack, -⟩ := hcount ⟨1, 5, 3, 0⟩ 1 (by decide)
  exact ⟨by rw [hrules]; rfl, hopening, hblack⟩

end SatRarity
