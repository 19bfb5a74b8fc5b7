import Mathlib.Algebra.Order.Floor.Div
import Mathlib.Data.Nat.Factorization.Basic
import SatRarity.Proofs.Succession

set_option autoImplicit false

/-! # The census of all sats

How many sats of the whole supply are of a tier? The ranked sats correspond to heights: the first
sat of a block to the height of its block, and a black sat to the height of the next block. So the
counts of tiers are counts of the multiples of the two lengths among the heights up to a bound,
`boundaryCount`. The bounds of the two colours differ, as the first sats of the last era, which has
one sat in each block, are no last sats.
-/

namespace SatRarity.Schedule

open Finset

variable (s : Schedule)

/-! ## Counting heights -/

/-- The number of eras from one that begins together with a period to the next such one. -/
def cycle : Nat := s.diffchangeInterval / Nat.gcd s.halvingInterval s.diffchangeInterval

/-- The number of positive heights up to a bound at which exactly the given boundaries lie. -/
def boundaryCount (bound : Nat) (b : Boundaries) : Nat :=
  #{h ∈ Ioc 0 bound | s.boundariesAt h = b}

/-- The least common multiple of the two lengths is an era for each era of the cycle. -/
theorem lcm_eq : Nat.lcm s.halvingInterval s.diffchangeInterval = s.halvingInterval * s.cycle :=
  Nat.mul_div_assoc _ (Nat.gcd_dvd_right _ _)

/-- The common multiples of the two lengths. -/
theorem boundaryCount_both (bound : Nat) :
    s.boundaryCount bound ⟨true, true⟩ = bound / s.halvingInterval / s.cycle := by
  rw [Nat.div_div_eq_div_mul, ← lcm_eq, ← Nat.Ioc_filter_dvd_card_eq_div, boundaryCount]
  congr 1
  refine filter_congr fun h _ => ?_
  simp [boundariesAt, Nat.lcm_dvd_iff]

/-- The multiples of the length of an era. -/
theorem boundaryCount_era (bound : Nat) :
    s.boundaryCount bound ⟨true, false⟩ + s.boundaryCount bound ⟨true, true⟩
      = bound / s.halvingInterval := by
  rw [← Nat.Ioc_filter_dvd_card_eq_div,
    ← card_filter_add_card_filter_not (p := fun h => ¬s.diffchangeInterval ∣ h), filter_filter,
    filter_filter, boundaryCount, boundaryCount]
  congr 2 <;> exact filter_congr fun h _ => by simp [boundariesAt]

/-- The multiples of the length of a period. -/
theorem boundaryCount_period (bound : Nat) :
    s.boundaryCount bound ⟨false, true⟩ + s.boundaryCount bound ⟨true, true⟩
      = bound / s.diffchangeInterval := by
  rw [← Nat.Ioc_filter_dvd_card_eq_div,
    ← card_filter_add_card_filter_not (p := fun h => ¬s.halvingInterval ∣ h), filter_filter,
    filter_filter, boundaryCount, boundaryCount]
  congr 2 <;> exact filter_congr fun h _ => by simp [boundariesAt, and_comm]

/-! ## Counting ordinals -/

/-- The ordinals of the supply whose tier is of the given kind. -/
noncomputable def ordinalsOf (p : Tier → Prop) [DecidablePred p] : Finset Nat :=
  {n ∈ range s.supply | p (s.tierAt n)}

/-- The number of sats whose tier is of the given kind. -/
noncomputable def countOf (p : Tier → Prop) [DecidablePred p] : Nat := #(s.ordinalsOf p)

theorem mined_strictMonoOn : StrictMonoOn s.mined (Set.Iic s.blockCount) := by
  intro h _ h' hh' hlt
  have hpos : 0 < s.reward h := (s.reward_pos_iff h).mpr (Nat.lt_of_lt_of_le hlt hh')
  have hle := s.mined_mono (Nat.lt_iff_add_one_le.mp hlt)
  rw [mined_succ] at hle
  omega

/-- The sats of the ranks of a first sat are the first sats of blocks. -/
theorem ordinalsOf_first (p : Tier → Prop) [DecidablePred p]
    (hp : ∀ t, p t → t.isBlack = false ∧ t ≠ .common) :
    s.ordinalsOf p = image s.mined {h ∈ range s.blockCount | p (s.tierAt (s.mined h))} := by
  ext n
  simp only [ordinalsOf, mem_filter, mem_image, mem_range]
  constructor
  · rintro ⟨hn, hpn⟩
    obtain ⟨h, i, hi, rfl⟩ := s.exists_mined_add hn
    obtain ⟨hblack, hcommon⟩ := hp _ hpn
    rcases Nat.eq_zero_or_pos i with rfl | hpos
    · exact ⟨h, ⟨(s.reward_pos_iff h).mp hi, hpn⟩, rfl⟩
    · rcases Nat.lt_or_eq_of_le (Nat.succ_le_of_lt hi) with hlt | heq
      · exact absurd (s.tierAt_inner hpos hlt) hcommon
      · rw [s.tierAt_last hpos heq, Boundaries.isBlack_closingTier] at hblack
        exact absurd hblack (by decide)
  · rintro ⟨h, ⟨hh, hph⟩, rfl⟩
    exact ⟨s.mined_lt_supply hh, hph⟩

theorem countOf_first (p : Tier → Prop) [DecidablePred p]
    (hp : ∀ t, p t → t.isBlack = false ∧ t ≠ .common) :
    s.countOf p = #{h ∈ range s.blockCount | p (s.tierAt (s.mined h))} := by
  rw [countOf, s.ordinalsOf_first p hp]
  refine card_image_of_injOn (s.mined_strictMonoOn.injOn.mono ?_)
  intro h hh
  exact (mem_range.mp (mem_filter.mp hh).1).le

/-- The black sats are those before the first sats of the blocks after blocks of two or more. -/
theorem ordinalsOf_black (p : Tier → Prop) [DecidablePred p] (hp : ∀ t, p t → t.isBlack = true) :
    s.ordinalsOf p = image (fun h => s.mined h - 1)
      {h ∈ Ioc 0 (s.halvingInterval * (s.eraCount - 1)) | p (s.boundariesAt h).closingTier} := by
  ext n
  simp only [ordinalsOf, mem_filter, mem_image, mem_range, mem_Ioc]
  constructor
  · rintro ⟨hn, hpn⟩
    obtain ⟨h, i, hi, rfl⟩ := s.exists_mined_add hn
    have hblack := hp _ hpn
    rcases Nat.eq_zero_or_pos i with rfl | hpos
    · rw [Nat.add_zero, s.isBlack_tierAt_first ((s.reward_pos_iff h).mp hi)] at hblack
      exact absurd hblack (by decide)
    · rcases Nat.lt_or_eq_of_le (Nat.succ_le_of_lt hi) with hlt | heq
      · rw [s.tierAt_inner hpos hlt] at hblack
        exact absurd hblack (by decide)
      · have hh : h < s.halvingInterval * (s.eraCount - 1) :=
          (s.one_lt_reward_iff h).mp (by omega)
        rw [s.tierAt_last hpos heq] at hpn
        refine ⟨h + 1, ⟨⟨h.succ_pos, hh⟩, hpn⟩, ?_⟩
        rw [← s.mined_add_succ heq, Nat.add_sub_cancel]
  · rintro ⟨h, ⟨⟨hpos, hle⟩, hph⟩, rfl⟩
    obtain ⟨h, rfl⟩ := Nat.exists_eq_add_one_of_ne_zero hpos.ne'
    have hreward : 1 < s.reward h := (s.one_lt_reward_iff h).mpr hle
    have hlast : s.reward h - 1 + 1 = s.reward h := Nat.sub_add_cancel hreward.le
    have hprev : s.mined (h + 1) - 1 = s.mined h + (s.reward h - 1) := by
      rw [← s.mined_add_succ hlast, Nat.add_sub_cancel]
    rw [hprev, s.tierAt_last (Nat.sub_pos_of_lt hreward) hlast]
    exact ⟨s.mined_add_lt_supply (by omega), hph⟩

theorem countOf_black (p : Tier → Prop) [DecidablePred p] (hp : ∀ t, p t → t.isBlack = true) :
    s.countOf p
      = #{h ∈ Ioc 0 (s.halvingInterval * (s.eraCount - 1)) | p (s.boundariesAt h).closingTier} := by
  rw [countOf, s.ordinalsOf_black p hp]
  refine card_image_of_injOn ?_
  intro h hh h' hh' heq
  have hbound : s.halvingInterval * (s.eraCount - 1) ≤ s.blockCount :=
    Nat.mul_le_mul_left _ (Nat.sub_le _ _)
  have hmem := mem_Ioc.mp (mem_filter.mp hh).1
  have hmem' := mem_Ioc.mp (mem_filter.mp hh').1
  have hpos := s.le_mined (hmem.2.trans hbound)
  have hpos' := s.le_mined (hmem'.2.trans hbound)
  -- nothing is cut off by the subtraction, as something is mined below a positive height
  refine s.mined_strictMonoOn.injOn (hmem.2.trans hbound) (hmem'.2.trans hbound) ?_
  simp only at heq
  omega

/-! ## Counting by tier -/

theorem countOf_openingTier (b : Boundaries) :
    s.countOf (· = b.openingTier) = s.boundaryCount (s.blockCount - 1) b := by
  rw [s.countOf_first, boundaryCount]
  · congr 1
    ext h
    have hN := s.blockCount_pos
    simp only [mem_filter, mem_range, mem_Ioc]
    constructor
    · rintro ⟨hh, htier⟩
      rw [s.tierAt_first hh] at htier
      split at htier
      · exact absurd htier.symm b.openingTier_ne_mythic
      · exact ⟨by omega, Boundaries.openingTier_inj.mp htier⟩
    · rintro ⟨hh, rfl⟩
      rw [s.tierAt_first (by omega), if_neg (by omega)]
      exact ⟨by omega, rfl⟩
  · rintro t rfl
    exact ⟨b.isBlack_openingTier, b.openingTier_ne_common⟩

theorem countOf_closingTier (b : Boundaries) :
    s.countOf (· = b.closingTier)
      = s.boundaryCount (s.halvingInterval * (s.eraCount - 1)) b := by
  rw [s.countOf_black, boundaryCount]
  · simp only [Boundaries.closingTier_inj]
  · rintro t rfl
    exact b.isBlack_closingTier

/-- Only the first block of all opens with the greatest rank. -/
theorem countOf_mythic : s.countOf (· = .mythic) = 1 := by
  rw [s.countOf_first, card_eq_one]
  · refine ⟨0, ?_⟩
    ext h
    simp only [mem_filter, mem_range, mem_singleton]
    constructor
    · rintro ⟨hh, htier⟩
      rw [s.tierAt_first hh] at htier
      split at htier
      · assumption
      · exact absurd htier (Boundaries.openingTier_ne_mythic _)
    · rintro rfl
      exact ⟨s.blockCount_pos, by rw [s.tierAt_first s.blockCount_pos, if_pos rfl]⟩
  · rintro t rfl
    decide

/-- Every block has one first sat. -/
theorem countOf_firstPosition :
    s.countOf (fun t => t ∈ Tier.firstPosition ∧ t ≠ .common) = s.blockCount := by
  rw [s.countOf_first, filter_true_of_mem, card_range]
  · intro h hh
    rw [s.tierAt_first (mem_range.mp hh)]
    split
    · decide
    · generalize s.boundariesAt h = b
      obtain ⟨_ | _, _ | _⟩ := b <;> decide
  · rintro t ⟨hfirst, hcommon⟩
    exact ⟨by simpa [Tier.firstPosition] using hfirst, hcommon⟩

/-- Every block of two sats or more has one last sat that is not the first. -/
theorem countOf_isBlack :
    s.countOf (· ∈ Tier.black) = s.halvingInterval * (s.eraCount - 1) := by
  rw [s.countOf_black, filter_true_of_mem, Nat.card_Ioc, Nat.sub_zero]
  · intro h _
    generalize s.boundariesAt h = b
    obtain ⟨_ | _, _ | _⟩ := b <;> decide
  · intro t ht
    simpa [Tier.black] using ht

/-- All other sats are common. -/
theorem countOf_common :
    s.countOf (· = .common) + s.countOf (fun t => t ∈ Tier.firstPosition ∧ t ≠ .common)
      + s.countOf (· ∈ Tier.black) = s.supply := by
  -- the supply is split by colour, and what is not black into common and first positions
  have hblack := card_filter_add_card_filter_not (s := range s.supply)
    (p := fun n => s.tierAt n ∈ Tier.black)
  have hcommon := card_filter_add_card_filter_not
    (s := {n ∈ range s.supply | s.tierAt n ∉ Tier.black}) (p := fun n => s.tierAt n = .common)
  rw [card_range] at hblack
  rw [filter_filter, filter_filter] at hcommon
  have h1 : s.countOf (· = .common)
      = #{n ∈ range s.supply | s.tierAt n ∉ Tier.black ∧ s.tierAt n = .common} := by
    refine congrArg card (filter_congr fun n _ => ?_)
    generalize s.tierAt n = t
    cases t <;> decide
  have h2 : s.countOf (fun t => t ∈ Tier.firstPosition ∧ t ≠ .common)
      = #{n ∈ range s.supply | s.tierAt n ∉ Tier.black ∧ ¬s.tierAt n = .common} := by
    refine congrArg card (filter_congr fun n _ => ?_)
    generalize s.tierAt n = t
    cases t <;> decide
  have h3 : s.countOf (· ∈ Tier.black) = #{n ∈ range s.supply | s.tierAt n ∈ Tier.black} := rfl
  omega

/-! ## The census -/

theorem blockCount_sub_one_div : (s.blockCount - 1) / s.halvingInterval = s.eraCount - 1 := by
  have hH := s.halvingInterval_pos
  have hL := s.eraCount_pos
  have hsplit : s.blockCount - 1
      = s.halvingInterval * (s.eraCount - 1) + (s.halvingInterval - 1) := by
    rw [blockCount, Nat.mul_sub_one]
    have := Nat.le_mul_of_pos_right s.halvingInterval hL
    omega
  rw [hsplit, Nat.mul_add_div hH, Nat.div_eq_of_lt (Nat.sub_lt hH Nat.one_pos), Nat.add_zero]

/-- How many sats of the supply are of each tier, and of each kind of tier. -/
theorem census (s : Schedule) :
    (∀ n c, s.Locates n c ↔ n < s.supply ∧ s.locate n = c)
    ∧ IsLeast {l | s.initialSubsidy < 2 ^ l} s.eraCount
    ∧ s.countOf (· = .mythic) = 1
    ∧ s.countOf (· = .legendary) = (s.eraCount - 1) / s.cycle
    ∧ s.countOf (· = .blackLegendary) = (s.eraCount - 1) / s.cycle
    ∧ s.countOf (· = .epic) + (s.eraCount - 1) / s.cycle = s.eraCount - 1
    ∧ s.countOf (· = .blackEpic) + (s.eraCount - 1) / s.cycle = s.eraCount - 1
    ∧ s.countOf (· = .rare) + 1 + (s.eraCount - 1) / s.cycle
      = (s.halvingInterval * s.eraCount) ⌈/⌉ s.diffchangeInterval
    ∧ s.countOf (· = .blackRare) + (s.eraCount - 1) / s.cycle
      = s.halvingInterval * (s.eraCount - 1) / s.diffchangeInterval
    ∧ s.countOf (fun t => t ∈ Tier.firstPosition ∧ t ≠ .common) = s.halvingInterval * s.eraCount
    ∧ s.countOf (· ∈ Tier.black) = s.halvingInterval * (s.eraCount - 1)
    ∧ s.countOf (· = .common) + s.halvingInterval * s.eraCount
      + s.halvingInterval * (s.eraCount - 1) = s.supply := by
  -- the first sats are counted up to the last block, the black ones up to the last era
  set first := s.blockCount - 1 with hfirst
  set last := s.halvingInterval * (s.eraCount - 1) with hlast
  have hdiv : first / s.halvingInterval = s.eraCount - 1 := s.blockCount_sub_one_div
  have hdiv' : last / s.halvingInterval = s.eraCount - 1 :=
    Nat.mul_div_cancel_left _ s.halvingInterval_pos
  have hboth : s.boundaryCount first ⟨true, true⟩ = (s.eraCount - 1) / s.cycle := by
    rw [boundaryCount_both, hdiv]
  have hboth' : s.boundaryCount last ⟨true, true⟩ = (s.eraCount - 1) / s.cycle := by
    rw [boundaryCount_both, hdiv']
  have hceil : s.blockCount ⌈/⌉ s.diffchangeInterval = first / s.diffchangeInterval + 1 := by
    rw [Nat.ceilDiv_eq_add_pred_div, Nat.sub_add_comm s.blockCount_pos,
      Nat.add_div_right _ s.diffchangeInterval_pos]
  refine ⟨s.locates_iff, ⟨Nat.lt_size_self _, fun l hl => Nat.size_le.mpr hl⟩, s.countOf_mythic,
    (s.countOf_openingTier ⟨true, true⟩).trans hboth,
    (s.countOf_closingTier ⟨true, true⟩).trans hboth', ?_, ?_, ?_, ?_,
    s.countOf_firstPosition, s.countOf_isBlack, ?_⟩
  · have hepic : s.countOf (· = .epic) = _ := s.countOf_openingTier ⟨true, false⟩
    rw [hepic, ← hboth, boundaryCount_era, hdiv]
  · have hepic : s.countOf (· = .blackEpic) = _ := s.countOf_closingTier ⟨true, false⟩
    rw [hepic, ← hboth', boundaryCount_era, hdiv']
  · have hrare : s.countOf (· = .rare) = _ := s.countOf_openingTier ⟨false, true⟩
    rw [hrare, ← hboth, Nat.add_right_comm, boundaryCount_period]
    exact hceil.symm
  · have hrare : s.countOf (· = .blackRare) = _ := s.countOf_closingTier ⟨false, true⟩
    rw [hrare, ← hboth', boundaryCount_period]
  · rw [← s.countOf_common, s.countOf_firstPosition, s.countOf_isBlack]
    rfl

end SatRarity.Schedule
