import SatRarity.Proofs.Boundary

set_option autoImplicit false

/-! # Neighbouring sats

The sat after one of a block is the next of that block, or the first of the next block. A block of
two sats or more is never the last one that has a subsidy. So a sat that closes boundaries always
has a sat after it, which opens the same boundaries, whatever era or period that one belongs to.
-/

namespace SatRarity.Schedule

variable (s : Schedule)

/-! ## The first sat of a block -/

/-- The ordinal is that of the first sat of a block. -/
def IsFirst (n : Nat) : Prop := (s.locate n).subsidyPosition = 0

theorem isFirst_mined_add {h i : Nat} (hi : i < s.reward h) :
    s.IsFirst (s.mined h + i) ↔ i = 0 := by
  rw [IsFirst, s.locate_mined_add hi]
  exact Int.natCast_eq_zero

theorem isFirst_mined {h : Nat} (hh : h < s.blockCount) : s.IsFirst (s.mined h) :=
  (s.isFirst_mined_add ((s.reward_pos_iff h).mpr hh)).mpr rfl

/-! ## Tiers by the place in the block -/

theorem tierAt_first {h : Nat} (hh : h < s.blockCount) :
    s.tierAt (s.mined h) = if h = 0 then .mythic else (s.boundariesAt h).openingTier := by
  have hpos : 0 < s.reward h := (s.reward_pos_iff h).mpr hh
  rw [← Nat.add_zero (s.mined h), s.tierAt_mined_add hpos, classify_first]

theorem tierAt_last {h i : Nat} (hpos : 0 < i) (hi : i + 1 = s.reward h) :
    s.tierAt (s.mined h + i) = (s.boundariesAt (h + 1)).closingTier := by
  rw [s.tierAt_mined_add (by omega), classify_last s hpos hi]

theorem tierAt_inner {h i : Nat} (hpos : 0 < i) (hi : i + 1 < s.reward h) :
    s.tierAt (s.mined h + i) = .common := by
  rw [s.tierAt_mined_add (by omega), classify_inner s hpos hi.ne]

/-- The sat after the last one of a block of two or more is the first one of the next block. -/
theorem mined_add_succ {h i : Nat} (hi : i + 1 = s.reward h) :
    s.mined h + i + 1 = s.mined (h + 1) := by
  rw [mined_succ, ← hi, Nat.add_assoc]

theorem mined_lt_supply {h : Nat} (hh : h < s.blockCount) : s.mined h < s.supply := by
  have := s.mined_add_lt_supply ((s.reward_pos_iff h).mpr hh)
  omega

/-! ## Black tiers -/

theorem isBlack_tierAt_first {h : Nat} (hh : h < s.blockCount) :
    (s.tierAt (s.mined h)).isBlack = false := by
  rw [s.tierAt_first hh]
  split
  · rfl
  · exact Boundaries.isBlack_openingTier _

/-- The black sats are those before the first sat of a block that are not first themselves, and the
next sat has the tier of the same name without the colour. -/
theorem black_iff_next_isFirst (s : Schedule) {n : Nat} (hn : n < s.supply) :
    (∀ m c, s.Locates m c ↔ m < s.supply ∧ s.locate m = c)
    ∧ (s.tierAt n ∈ Tier.black ↔ ¬s.IsFirst n ∧ n + 1 < s.supply ∧ s.IsFirst (n + 1))
    ∧ (s.tierAt n ∈ Tier.black → (s.tierAt n).name = "black_" ++ (s.tierAt (n + 1)).name) := by
  refine ⟨s.locates_iff, ?_⟩
  have hmem : ∀ t : Tier, t ∈ Tier.black ↔ t.isBlack = true := fun t => by
    simp [Tier.black, List.mem_filter]
  rw [hmem]
  obtain ⟨h, i, hi, rfl⟩ := s.exists_mined_add hn
  rcases Nat.eq_zero_or_pos i with rfl | hpos
  · -- the first sat of a block
    have hblack := s.isBlack_tierAt_first ((s.reward_pos_iff h).mp hi)
    rw [Nat.add_zero, hblack, ← Nat.add_zero (s.mined h), s.isFirst_mined_add hi]
    simp
  · rw [s.isFirst_mined_add hi]
    rcases Nat.lt_or_eq_of_le (Nat.succ_le_of_lt hi) with hlt | heq
    · -- the next sat is of the same block
      rw [s.tierAt_inner hpos hlt, Nat.add_assoc, s.isFirst_mined_add hlt]
      simp [Tier.isBlack]
    · -- the next sat is the first one of the next block
      have hnext : h + 1 < s.blockCount := s.succ_lt_blockCount (by omega)
      rw [s.tierAt_last hpos heq, s.mined_add_succ heq, s.tierAt_first hnext, if_neg h.succ_ne_zero,
        Boundaries.isBlack_closingTier, Boundaries.name_closingTier]
      refine ⟨iff_of_true rfl ⟨hpos.ne', s.mined_lt_supply hnext, s.isFirst_mined hnext⟩, ?_⟩
      exact fun _ => rfl

/-- The last sat of the second era of the short schedule, and the sat after it. -/
theorem black_iff_next_isFirst_era_end :
    35 < short.supply ∧ short.tierAt 35 ∈ Tier.black ∧ short.IsFirst 36
      ∧ (short.tierAt 35).name = "black_" ++ (short.tierAt 36).name := by
  have hn : 35 < short.supply := by rw [supply_eq_mined]; decide
  have hblack : short.tierAt 35 ∈ Tier.black := by decide
  obtain ⟨-, hiff, hname⟩ := short.black_iff_next_isFirst hn
  exact ⟨hn, hblack, (hiff.mp hblack).2.2, hname hblack⟩

end SatRarity.Schedule
