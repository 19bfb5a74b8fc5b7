import Mathlib.Data.Nat.Find
import SatRarity.Classification
import SatRarity.Proofs.Emission

set_option autoImplicit false

/-! # The location of an ordinal

The sats are numbered in the order in which they are mined. `Locates` says in the terms of a
coordinate where an ordinal is; `locate` finds the place, by way of the block that the ordinal is
in. The main statement is `locates_iff`: an ordinal below the supply is at exactly one coordinate,
the one that is found, and all other ordinals are nowhere.
-/

namespace SatRarity.Schedule

/-- A schedule of three eras, short enough to be looked at as a whole: every tier occurs in it. -/
def short : Schedule where
  halvingInterval := 6
  diffchangeInterval := 4
  initialSubsidy := 4
  halvingInterval_pos := by decide
  diffchangeInterval_pos := by decide
  initialSubsidy_pos := by decide

variable (s : Schedule)

/-! ## Ordinals and coordinates -/

/-- The height of the block of a coordinate. -/
def heightOf (c : Coordinate) : Int := c.epoch * s.halvingInterval + c.epochPosition

/-- The sat with this ordinal is at this coordinate. -/
structure Locates (n : Nat) (c : Coordinate) : Prop where
  epoch_nonneg : 0 ≤ c.epoch
  epochPosition_nonneg : 0 ≤ c.epochPosition
  epochPosition_lt : c.epochPosition < s.halvingInterval
  periodPosition_eq : c.periodPosition = s.heightOf c % s.diffchangeInterval
  subsidyPosition_nonneg : 0 ≤ c.subsidyPosition
  subsidyPosition_lt : c.subsidyPosition < s.subsidyOf c.epoch.toNat
  ordinal_eq :
    (n : Int) = s.halvingInterval * ∑ i ∈ Finset.range c.epoch.toNat, (s.subsidyOf i : Int)
      + c.epochPosition * s.subsidyOf c.epoch.toNat + c.subsidyPosition

/-- The coordinate of the sat with the given index in the block at a height. -/
def place (h i : Nat) : Coordinate where
  epoch := (h / s.halvingInterval : Nat)
  epochPosition := (h % s.halvingInterval : Nat)
  periodPosition := (h % s.diffchangeInterval : Nat)
  subsidyPosition := i

@[simp] theorem heightOf_place (h i : Nat) : s.heightOf (s.place h i) = h := by
  simp only [heightOf, place]
  rw [← Int.natCast_mul, ← Int.natCast_add, Nat.div_add_mod']

/-- What is mined below a height, in the terms of the era and the block within the era. -/
theorem mined_eq (h : Nat) :
    s.mined h = s.halvingInterval * ∑ i ∈ Finset.range (h / s.halvingInterval), s.subsidyOf i
      + h % s.halvingInterval * s.reward h := by
  have hmod : h % s.halvingInterval ≤ s.halvingInterval :=
    (Nat.mod_lt h s.halvingInterval_pos).le
  rw [reward, ← s.mined_era _ _ hmod, Nat.div_add_mod']

/-- A place in a block is where the sats of the blocks below and those before it in its block are
counted. -/
theorem locates_place {h i : Nat} (hi : i < s.reward h) :
    s.Locates (s.mined h + i) (s.place h i) where
  epoch_nonneg := Int.natCast_nonneg _
  epochPosition_nonneg := Int.natCast_nonneg _
  epochPosition_lt := Int.ofNat_lt.mpr (Nat.mod_lt h s.halvingInterval_pos)
  periodPosition_eq := by
    rw [heightOf_place]
    exact Int.natCast_emod _ _
  subsidyPosition_nonneg := Int.natCast_nonneg _
  subsidyPosition_lt := Int.ofNat_lt.mpr hi
  ordinal_eq := by
    simp only [place, Int.toNat_natCast]
    rw [mined_eq, reward]
    push_cast
    rfl

/-- Whatever is located is at a place in a block. -/
theorem Locates.exists_place {s : Schedule} {n : Nat} {c : Coordinate} (h : s.Locates n c) :
    ∃ height i, i < s.reward height ∧ n = s.mined height + i ∧ c = s.place height i := by
  -- the fields are natural numbers, and `e` and `p` are quotient and remainder of the height
  obtain ⟨e, he⟩ := Int.eq_ofNat_of_zero_le h.epoch_nonneg
  obtain ⟨p, hp⟩ := Int.eq_ofNat_of_zero_le h.epochPosition_nonneg
  obtain ⟨i, hi⟩ := Int.eq_ofNat_of_zero_le h.subsidyPosition_nonneg
  have hpH : p < s.halvingInterval := by have := h.epochPosition_lt; omega
  have hdiv : (e * s.halvingInterval + p) / s.halvingInterval = e := by
    rw [Nat.mul_comm, Nat.mul_add_div s.halvingInterval_pos, Nat.div_eq_of_lt hpH, Nat.add_zero]
  have hmod : (e * s.halvingInterval + p) % s.halvingInterval = p := by
    rw [Nat.mul_comm, Nat.mul_add_mod, Nat.mod_eq_of_lt hpH]
  have hlt := h.subsidyPosition_lt
  have hord := h.ordinal_eq
  have hper := h.periodPosition_eq
  rw [he, hi, Int.toNat_natCast] at hlt
  rw [he, hp, hi, Int.toNat_natCast] at hord
  rw [heightOf, he, hp, ← Int.natCast_mul, ← Int.natCast_add, ← Int.natCast_emod] at hper
  refine ⟨e * s.halvingInterval + p, i, ?_, ?_, ?_⟩
  · rw [reward, hdiv]
    exact Int.ofNat_lt.mp hlt
  · rw [s.mined_era e p hpH.le]
    exact_mod_cast hord
  · rw [place, hdiv, hmod, ← he, ← hp, ← hper, ← hi]

/-! ## Finding the place -/

/-- The height of the block that an ordinal is in. -/
def blockOf (n : Nat) : Nat := Nat.findGreatest (fun h => s.mined h ≤ n) n

/-- The coordinate of an ordinal. -/
def locate (n : Nat) : Coordinate := s.place (s.blockOf n) (n - s.mined (s.blockOf n))

theorem mined_blockOf_le (n : Nat) : s.mined (s.blockOf n) ≤ n :=
  Nat.findGreatest_spec (P := fun h => s.mined h ≤ n) (m := 0) (Nat.zero_le n) (Nat.zero_le n)

theorem lt_mined_blockOf_succ {n : Nat} (hn : n < s.supply) :
    n < s.mined (s.blockOf n + 1) := by
  by_contra hcon
  have hle : s.mined (s.blockOf n + 1) ≤ n := Nat.le_of_not_lt hcon
  have hblock : s.blockOf n + 1 < s.blockCount :=
    s.lt_blockCount_of_mined_lt (Nat.lt_of_le_of_lt hle hn)
  -- the next block is within the range that was searched, as every block has added a sat
  have hrange : s.blockOf n + 1 ≤ n := Nat.le_trans (s.le_mined hblock.le) hle
  have hmax : s.blockOf n + 1 ≤ s.blockOf n :=
    Nat.le_findGreatest (P := fun h => s.mined h ≤ n) hrange hle
  omega

theorem blockOf_mined_add {h i : Nat} (hi : i < s.reward h) : s.blockOf (s.mined h + i) = h := by
  have hlt : s.mined h + i < s.mined (h + 1) := by rw [mined_succ]; omega
  have hn : s.mined h + i < s.supply := Nat.lt_of_lt_of_le hlt (s.mined_le_supply _)
  have h1 := s.mined_blockOf_le (s.mined h + i)
  have h2 := s.lt_mined_blockOf_succ hn
  -- in a block below it would have been counted, and in one above it would not be reached
  rcases Nat.lt_trichotomy (s.blockOf (s.mined h + i)) h with hb | hb | hb
  · have := s.mined_mono (Nat.lt_iff_add_one_le.mp hb)
    omega
  · exact hb
  · have := s.mined_mono (Nat.lt_iff_add_one_le.mp hb)
    omega

theorem locate_mined_add {h i : Nat} (hi : i < s.reward h) :
    s.locate (s.mined h + i) = s.place h i := by
  rw [locate, s.blockOf_mined_add hi, Nat.add_sub_cancel_left]

/-- Every ordinal below the supply counts the sats below a block and some of that block. -/
theorem exists_mined_add {n : Nat} (hn : n < s.supply) :
    ∃ h i, i < s.reward h ∧ n = s.mined h + i := by
  have h1 := s.mined_blockOf_le n
  have h2 := s.lt_mined_blockOf_succ hn
  rw [mined_succ] at h2
  exact ⟨s.blockOf n, n - s.mined (s.blockOf n), by omega, by omega⟩

theorem mined_add_lt_supply {h i : Nat} (hi : i < s.reward h) : s.mined h + i < s.supply := by
  have := s.mined_le_supply (h + 1)
  rw [mined_succ] at this
  omega

/-- An ordinal below the supply is at exactly one coordinate, and no other ordinal is anywhere. -/
theorem locates_iff (n : Nat) (c : Coordinate) :
    s.Locates n c ↔ n < s.supply ∧ s.locate n = c := by
  constructor
  · intro h
    obtain ⟨height, i, hi, rfl, rfl⟩ := h.exists_place
    exact ⟨s.mined_add_lt_supply hi, s.locate_mined_add hi⟩
  · rintro ⟨hn, rfl⟩
    obtain ⟨height, i, hi, rfl⟩ := s.exists_mined_add hn
    rw [s.locate_mined_add hi]
    exact s.locates_place hi

/-! ## The tier of an ordinal -/

/-- The tier of an ordinal: that of its coordinate in a block with the subsidy of its era. -/
def tierAt (n : Nat) : Tier := classify s (s.subsidyOf (s.locate n).epoch.toNat) (s.locate n)

theorem tierAt_mined_add {h i : Nat} (hi : i < s.reward h) :
    s.tierAt (s.mined h + i) = classify s (s.reward h) (s.place h i) := by
  rw [tierAt, s.locate_mined_add hi]
  rfl

end SatRarity.Schedule
