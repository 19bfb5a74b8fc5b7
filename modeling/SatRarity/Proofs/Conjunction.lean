import SatRarity.Proofs.Census
import SatRarity.Proofs.Halving

set_option autoImplicit false

/-! # Conjunctions

Where an era and a difficulty period begin together is a conjunction. The length of a period divides
the height at which an era begins exactly if the cycle divides the number of the era, so
conjunctions return with every cycle of eras, and at every era if the lengths divide evenly. An era
ends where the next one begins.

`conjunctions_return` says what this means for the tiers of the first and the last sat of an era,
and that the tiers of corresponding sats are the same one cycle later.
-/

namespace SatRarity.Schedule

variable {s : Schedule}

/-! ## Eras that begin with a period -/

/-- An era begins with a period exactly if the cycle divides its number. -/
theorem dvd_mul_iff_cycle_dvd (e : ℕ) :
    s.diffchangeInterval ∣ e * s.halvingInterval ↔ s.cycle ∣ e := by
  calc s.diffchangeInterval ∣ e * s.halvingInterval
      ↔ Nat.lcm s.halvingInterval s.diffchangeInterval ∣ s.halvingInterval * e := by
        rw [Nat.lcm_dvd_iff, Nat.mul_comm]
        exact (and_iff_right (Nat.dvd_mul_right _ _)).symm
    _ ↔ s.halvingInterval * s.cycle ∣ s.halvingInterval * e := by rw [lcm_eq]
    _ ↔ s.cycle ∣ e := Nat.mul_dvd_mul_iff_left s.halvingInterval_pos

theorem intCast_dvd_mul_iff (e : ℤ) :
    (s.diffchangeInterval : ℤ) ∣ e * s.halvingInterval ↔ (s.cycle : ℤ) ∣ e := by
  rw [Int.natCast_dvd, Int.natCast_dvd, Int.natAbs_mul, Int.natAbs_natCast, dvd_mul_iff_cycle_dvd]

/-- The cycle is a single era exactly if the lengths divide evenly. -/
theorem cycle_eq_one_iff : s.cycle = 1 ↔ s.diffchangeInterval ∣ s.halvingInterval := by
  rw [← Nat.dvd_one, ← dvd_mul_iff_cycle_dvd, Nat.one_mul]

/-- If the lengths do not divide evenly, the second era begins without a period. -/
theorem not_cycle_dvd_one (h : ¬s.diffchangeInterval ∣ s.halvingInterval) :
    ¬(s.cycle : ℤ) ∣ 1 := by
  rwa [Int.natCast_dvd, Int.natAbs_one, Nat.dvd_one, cycle_eq_one_iff]

/-! ## Aligned coordinates -/

/-- The block is one of its era, and its place in the period is the one that its height tells. -/
structure IsAligned (s : Schedule) (c : Coordinate) : Prop where
  epochPosition_nonneg : 0 ≤ c.epochPosition
  epochPosition_lt : c.epochPosition < s.halvingInterval
  periodPosition_eq : c.periodPosition = s.heightOf c % s.diffchangeInterval

theorem Locates.isAligned {n : ℕ} {c : Coordinate} (h : s.Locates n c) : s.IsAligned c :=
  ⟨h.epochPosition_nonneg, h.epochPosition_lt, h.periodPosition_eq⟩

namespace IsAligned

variable {c c' : Coordinate}

/-- The first block of an era opens a period if the cycle divides the number of the era. -/
theorem opened_eq (h : s.IsAligned c) (hblock : c.epochPosition = 0) :
    c.opened = ⟨true, (s.cycle : ℤ) ∣ c.epoch⟩ := by
  have hperiod : c.periodPosition = 0 ↔ (s.cycle : ℤ) ∣ c.epoch := by
    rw [h.periodPosition_eq, heightOf, hblock, Int.add_zero, ← Int.dvd_iff_emod_eq_zero,
      intCast_dvd_mul_iff]
  simp only [Coordinate.opened, hblock, hperiod, decide_true]

/-- The last block of an era closes a period if the next era begins with one. -/
theorem closed_eq (h : s.IsAligned c) (hblock : c.epochPosition = s.halvingInterval - 1) :
    c.closed s = ⟨true, (s.cycle : ℤ) ∣ c.epoch + 1⟩ := by
  have hheight : s.heightOf c = (c.epoch + 1) * s.halvingInterval - 1 := by
    rw [heightOf, hblock]
    ring
  have hperiod : c.periodPosition = s.diffchangeInterval - 1 ↔ (s.cycle : ℤ) ∣ c.epoch + 1 := by
    rw [h.periodPosition_eq, hheight,
      emod_eq_pred_iff (Int.natCast_pos.mpr s.diffchangeInterval_pos), intCast_dvd_mul_iff]
  simp only [Coordinate.closed, hblock, hperiod, decide_true]

/-- A cycle later the same block of the era is at the same place in the period. -/
theorem periodPosition_add_cycle (h : s.IsAligned c) (h' : s.IsAligned c')
    (hepoch : c'.epoch = c.epoch + s.cycle) (hblock : c'.epochPosition = c.epochPosition) :
    c'.periodPosition = c.periodPosition := by
  have hheight : s.heightOf c' = s.heightOf c + s.cycle * s.halvingInterval := by
    rw [heightOf, heightOf, hepoch, hblock]
    ring
  obtain ⟨m, hm⟩ := (intCast_dvd_mul_iff (s := s) s.cycle).mpr dvd_rfl
  rw [h'.periodPosition_eq, h.periodPosition_eq, hheight, hm, Int.add_mul_emod_self_left]

end IsAligned

/-! ## The ends of an era -/

section Ends

variable {c : Coordinate} {u : ℤ}

theorem classify_first_of_era (h : s.IsAligned c) (hepoch : 1 ≤ c.epoch)
    (hblock : c.epochPosition = 0) (hsat : c.subsidyPosition = 0) :
    classify s u c = if (s.cycle : ℤ) ∣ c.epoch then .legendary else .epic := by
  have hmythic : ¬(c.epoch = 0 ∧ c.opened = ⟨true, true⟩) := fun hzero => by omega
  rw [classify, if_pos hsat, if_neg hmythic, h.opened_eq hblock]
  by_cases hcycle : (s.cycle : ℤ) ∣ c.epoch <;> simp [hcycle, Boundaries.openingTier]

theorem classify_last_of_era (h : s.IsAligned c) (hu : 2 ≤ u)
    (hblock : c.epochPosition = s.halvingInterval - 1) (hsat : c.subsidyPosition = u - 1) :
    classify s u c = if (s.cycle : ℤ) ∣ c.epoch + 1 then .blackLegendary else .blackEpic := by
  have hfirst : c.subsidyPosition ≠ 0 := by omega
  rw [classify, if_neg hfirst, if_pos hsat, h.closed_eq hblock]
  by_cases hcycle : (s.cycle : ℤ) ∣ c.epoch + 1 <;> simp [hcycle, Boundaries.closingTier]

/-- The tier of an opening tells what is opened. -/
theorem opened_of_classify {b : Boundaries} (h : classify s u c = b.openingTier) :
    c.opened = b := by
  unfold classify at h
  split at h
  · split at h
    · exact absurd h.symm b.openingTier_ne_mythic
    · exact Boundaries.openingTier_inj.mp h
  · split at h
    · exact absurd h.symm (b.openingTier_ne_closingTier _)
    · exact absurd h.symm b.openingTier_ne_common

/-- The tier of a closing tells what is closed. -/
theorem closed_of_classify {b : Boundaries} (h : classify s u c = b.closingTier) :
    c.closed s = b := by
  unfold classify at h
  split at h
  · split at h
    · exact absurd h.symm b.closingTier_ne_mythic
    · exact absurd h (Boundaries.openingTier_ne_closingTier _ b)
  · split at h
    · exact Boundaries.closingTier_inj.mp h
    · exact absurd h.symm b.closingTier_ne_common

/-- If the lengths divide evenly, no era begins or ends without a period, so no sat is epic. -/
theorem classify_of_dvd (h : s.IsAligned c) (hdvd : s.diffchangeInterval ∣ s.halvingInterval) :
    classify s u c ≠ .epic ∧ classify s u c ≠ .blackEpic := by
  have hcycle : s.cycle = 1 := cycle_eq_one_iff.mpr hdvd
  constructor
  · intro hepic
    have hopened := opened_of_classify (b := ⟨true, false⟩) hepic
    have hblock : c.epochPosition = 0 := by
      simpa [Coordinate.opened] using congrArg Boundaries.era hopened
    rw [h.opened_eq hblock, hcycle] at hopened
    simp at hopened
  · intro hepic
    have hclosed := closed_of_classify (b := ⟨true, false⟩) hepic
    have hblock : c.epochPosition = s.halvingInterval - 1 := by
      simpa [Coordinate.closed] using congrArg Boundaries.era hclosed
    rw [h.closed_eq hblock, hcycle] at hclosed
    simp at hclosed

end Ends

/-! ## Epic sats -/

/-- If the lengths do not divide evenly, the first sat of the second era is epic. -/
theorem exists_epic (hdvd : ¬s.diffchangeInterval ∣ s.halvingInterval)
    (hfirst : 2 ≤ s.initialSubsidy) :
    ∃ (n : ℕ) (c : Coordinate) (u : ℕ),
      s.Locates n c ∧ s.subsidy c.epoch = .ok u ∧ classify s u c = .epic := by
  have hH := s.halvingInterval_pos
  have hera : 0 < s.subsidyOf 1 :=
    (s.subsidyOf_pos_iff 1).mpr ((s.one_lt_subsidyOf_iff 0).mp hfirst)
  have hreward : 0 < s.reward s.halvingInterval := by rwa [reward, Nat.div_self hH]
  have hlocates := s.locates_place hreward
  refine ⟨_, _, _, hlocates, subsidy_place s _ _, ?_⟩
  have hepoch : (s.place s.halvingInterval 0).epoch = 1 := by simp [place, Nat.div_self hH]
  have hblock : (s.place s.halvingInterval 0).epochPosition = 0 := by simp [place]
  have hcycle : ¬(s.cycle : ℤ) ∣ (s.place s.halvingInterval 0).epoch := by
    rw [hepoch]
    exact not_cycle_dvd_one hdvd
  rw [classify_first_of_era hlocates.isAligned hepoch.ge hblock rfl, if_neg hcycle]

/-- If the lengths do not divide evenly, the last sat of the first era is black epic. -/
theorem exists_blackEpic (hdvd : ¬s.diffchangeInterval ∣ s.halvingInterval)
    (hfirst : 2 ≤ s.initialSubsidy) :
    ∃ (n : ℕ) (c : Coordinate) (u : ℕ),
      s.Locates n c ∧ s.subsidy c.epoch = .ok u ∧ classify s u c = .blackEpic := by
  have hH := s.halvingInterval_pos
  have hlt : s.halvingInterval - 1 < s.halvingInterval := Nat.sub_one_lt hH.ne'
  have hera : s.reward (s.halvingInterval - 1) = s.initialSubsidy := by
    rw [reward, Nat.div_eq_of_lt hlt, subsidyOf_zero]
  have hsat : s.initialSubsidy - 1 < s.reward (s.halvingInterval - 1) := by omega
  have hlocates := s.locates_place hsat
  refine ⟨_, _, _, hlocates, subsidy_place s _ _, ?_⟩
  set c := s.place (s.halvingInterval - 1) (s.initialSubsidy - 1) with hc
  have hepoch : c.epoch = 0 := by simp [hc, place, Nat.div_eq_of_lt hlt]
  have hblock : c.epochPosition = s.halvingInterval - 1 := by
    simp only [hc, place, Nat.mod_eq_of_lt hlt]
    omega
  have hlast : c.subsidyPosition = (s.reward (s.halvingInterval - 1) : ℤ) - 1 := by
    rw [hera]
    simp only [hc, place]
    omega
  have hcycle : ¬(s.cycle : ℤ) ∣ c.epoch + 1 := by
    rw [hepoch, Int.zero_add]
    exact not_cycle_dvd_one hdvd
  rw [classify_last_of_era hlocates.isAligned (by omega) hblock hlast, if_neg hcycle]

/-! ## One cycle later -/

/-- Both indices are the first of a subsidy, both are the last, or both are in the middle. -/
inductive SamePlace (i u i' u' : ℤ) : Prop
  | first (h : i = 0) (h' : i' = 0) : SamePlace i u i' u'
  | last (h : i = u - 1) (h' : i' = u' - 1) : SamePlace i u i' u'
  | middle (h : 0 < i ∧ i < u - 1) (h' : 0 < i' ∧ i' < u' - 1) : SamePlace i u i' u'

/-- Sats of one block of the era are of the same tier one cycle later. -/
theorem classify_add_cycle {c c' : Coordinate} {u u' : ℤ} (h : s.IsAligned c)
    (h' : s.IsAligned c') (hpos : 1 ≤ c.epoch) (hepoch : c'.epoch = c.epoch + s.cycle)
    (hblock : c'.epochPosition = c.epochPosition) (hu : 2 ≤ u) (hu' : 2 ≤ u')
    (hsat : SamePlace c.subsidyPosition u c'.subsidyPosition u') :
    classify s u c = classify s u' c' := by
  have hperiod := h.periodPosition_add_cycle h' hepoch hblock
  have hopened : c'.opened = c.opened := by
    simp only [Coordinate.opened, hblock, hperiod]
  have hclosed : c'.closed s = c.closed s := by
    simp only [Coordinate.closed, hblock, hperiod]
  have hera : ¬(c.epoch = 0 ∧ c.opened = ⟨true, true⟩) := fun hzero => by omega
  have hera' : ¬(c'.epoch = 0 ∧ c'.opened = ⟨true, true⟩) := fun hzero => by omega
  cases hsat with
  | first hi hi' =>
      rw [classify, if_pos hi, if_neg hera, classify, if_pos hi', if_neg hera', hopened]
  | last hi hi' =>
      rw [classify, if_neg (by omega), if_pos hi, classify, if_neg (by omega), if_pos hi', hclosed]
  | middle hi hi' =>
      rw [classify, if_neg (by omega), if_neg (by omega), classify, if_neg (by omega),
        if_neg (by omega)]

/-- The tiers of the ends of an era are told by the cycle: at conjunctions they are the legendary
ones, and the epic ones elsewhere. So there are epic sats exactly if the lengths do not divide
evenly, provided that there is a second era, and the tiers of an era are those of one cycle
later. -/
theorem conjunctions_return (s : Schedule) :
    (∀ (c : Coordinate) (u : ℤ), s.IsAligned c → 1 ≤ c.epoch → c.epochPosition = 0 →
      c.subsidyPosition = 0 →
        classify s u c = if (s.cycle : ℤ) ∣ c.epoch then .legendary else .epic)
    ∧ (∀ (c : Coordinate) (u : ℕ), s.IsAligned c → s.subsidy c.epoch = .ok u → 2 ≤ u →
      c.epochPosition = s.halvingInterval - 1 → c.subsidyPosition = u - 1 →
        classify s u c = if (s.cycle : ℤ) ∣ c.epoch + 1 then .blackLegendary else .blackEpic)
    ∧ (s.diffchangeInterval ∣ s.halvingInterval → ∀ (c : Coordinate) (u : ℤ), s.IsAligned c →
      classify s u c ≠ .epic ∧ classify s u c ≠ .blackEpic)
    ∧ (¬s.diffchangeInterval ∣ s.halvingInterval → 2 ≤ s.initialSubsidy →
      ∀ t ∈ [Tier.epic, Tier.blackEpic], ∃ (n : ℕ) (c : Coordinate) (u : ℕ),
        s.Locates n c ∧ s.subsidy c.epoch = .ok u ∧ classify s u c = t)
    ∧ (∀ (c c' : Coordinate) (u u' : ℕ), s.IsAligned c → s.IsAligned c' → 1 ≤ c.epoch →
      c'.epoch = c.epoch + s.cycle → c'.epochPosition = c.epochPosition →
      s.subsidy c.epoch = .ok u → s.subsidy c'.epoch = .ok u' → 2 ≤ u' →
      SamePlace c.subsidyPosition u c'.subsidyPosition u' →
        classify s u c = classify s u' c') := by
  refine ⟨fun c u => classify_first_of_era, fun c u h _ hu => ?_, fun hdvd c u h =>
    classify_of_dvd h hdvd, fun hdvd hfirst => ?_, ?_⟩
  · exact classify_last_of_era h (by exact_mod_cast hu)
  · simp only [List.forall_mem_cons]
    exact ⟨exists_epic hdvd hfirst, exists_blackEpic hdvd hfirst, by simp⟩
  · intro c c' u u' h h' hpos hepoch hblock hu hu' htwo
    -- the subsidy of the earlier era is not less than that of the later one
    have hle : u' ≤ u := by
      rw [subsidy, if_pos (by omega)] at hu hu'
      rw [← Except.ok.inj hu, ← Except.ok.inj hu']
      exact s.antitone_subsidyOf (Int.toNat_le_toNat (by omega))
    exact classify_add_cycle h h' hpos hepoch hblock (by omega) (by omega)

/-- The second era of the standard schedule begins without a period and the sixth one ends with one;
both are a cycle of six eras before the same again. Eras of eight blocks and periods of four always
begin together. -/
theorem conjunctions_return_standard :
    standard.cycle = 6
    ∧ classify standard 2500000000 ⟨1, 0, 336, 0⟩ = .epic
    ∧ classify standard 156250000 ⟨5, 209999, 2015, 156249999⟩ = .blackLegendary
    ∧ (∃ (n : ℕ) (c : Coordinate) (u : ℕ), standard.Locates n c
      ∧ standard.subsidy c.epoch = .ok u ∧ classify standard u c = .blackEpic)
    ∧ classify standard 2500000000 ⟨1, 2015, 335, 2499999999⟩
      = classify standard 39062500 ⟨7, 2015, 335, 39062499⟩
    ∧ classify ⟨8, 4, 16, by decide, by decide, by decide⟩ 8 ⟨1, 0, 0, 0⟩ ≠ .epic := by
  obtain ⟨hfirst, hlast, -, hepic, hcycle⟩ := conjunctions_return standard
  have heven := (conjunctions_return ⟨8, 4, 16, by decide, by decide, by decide⟩).2.2.1
  have hseven : standard.subsidy 7 = .ok 39062500 := rfl
  refine ⟨by decide, ?_, ?_, ?_, ?_, ?_⟩
  · exact hfirst ⟨1, 0, 336, 0⟩ 2500000000 (by constructor <;> decide) (by decide) rfl rfl
  · exact hlast ⟨5, 209999, 2015, 156249999⟩ 156250000 (by constructor <;> decide) rfl (by decide)
      (by decide) (by decide)
  · exact hepic (by decide) (by decide) .blackEpic (by decide)
  · exact hcycle ⟨1, 2015, 335, 2499999999⟩ ⟨7, 2015, 335, 39062499⟩ 2500000000 39062500
      (by constructor <;> decide) (by constructor <;> decide) (by decide) (by decide) rfl rfl
      hseven (by decide) (.last (by decide) (by decide))
  · exact (heven (by decide) ⟨1, 0, 0, 0⟩ 8 (by constructor <;> decide)).1

end SatRarity.Schedule
