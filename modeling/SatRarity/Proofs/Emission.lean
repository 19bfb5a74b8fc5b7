import Mathlib.Algebra.BigOperators.Finprod
import Mathlib.Algebra.BigOperators.Intervals
import Mathlib.Data.Nat.Size
import SatRarity.Schedule

set_option autoImplicit false

/-! # The emission of a schedule

Blocks are counted from the first one by their *height*, across eras. The block at a height has the
subsidy of the era that the height falls into, its `reward`, and the sats of all blocks below a
height are the sats `mined` there. As the subsidy halves from era to era, only the first
`eraCount` eras emit anything, and the last of them emits one sat in each block. So the `supply`,
a sum over all eras, is what is mined below the height `blockCount`.
-/

namespace SatRarity.Schedule

open Finset

variable (s : Schedule)

/-! ## Eras -/

/-- The number of eras that emit anything: the number of binary digits of the first subsidy. -/
def eraCount : Nat := s.initialSubsidy.size

theorem subsidyOf_pos_iff (e : Nat) : 0 < s.subsidyOf e ↔ e < s.eraCount := by
  rw [subsidyOf, Nat.shiftRight_eq_div_pow, eraCount, Nat.lt_size, Nat.div_pos_iff]
  exact ⟨fun h => h.2, fun h => ⟨Nat.two_pow_pos e, h⟩⟩

theorem eraCount_pos : 0 < s.eraCount := (s.subsidyOf_pos_iff 0).mp s.initialSubsidy_pos

/-- A block has more than one sat exactly if the next era still emits something. -/
theorem one_lt_subsidyOf_iff (e : Nat) : 1 < s.subsidyOf e ↔ e + 1 < s.eraCount := by
  rw [← subsidyOf_pos_iff, subsidyOf_succ]
  omega

/-! ## Blocks -/

/-- The subsidy of the block at a height. -/
def reward (h : Nat) : Nat := s.subsidyOf (h / s.halvingInterval)

/-- The number of blocks that have a subsidy. -/
def blockCount : Nat := s.halvingInterval * s.eraCount

/-- The number of sats in the blocks below a height. -/
def mined (h : Nat) : Nat := ∑ i ∈ range h, s.reward i

@[simp] theorem mined_zero : s.mined 0 = 0 := rfl

theorem mined_succ (h : Nat) : s.mined (h + 1) = s.mined h + s.reward h := sum_range_succ _ _

theorem mined_mono : Monotone s.mined :=
  monotone_nat_of_le_succ fun h => by rw [mined_succ]; exact Nat.le_add_right _ _

theorem blockCount_pos : 0 < s.blockCount := Nat.mul_pos s.halvingInterval_pos s.eraCount_pos

theorem reward_pos_iff (h : Nat) : 0 < s.reward h ↔ h < s.blockCount := by
  rw [reward, subsidyOf_pos_iff, Nat.div_lt_iff_lt_mul s.halvingInterval_pos, Nat.mul_comm,
    blockCount]

theorem one_lt_reward_iff (h : Nat) :
    1 < s.reward h ↔ h < s.halvingInterval * (s.eraCount - 1) := by
  rw [reward, one_lt_subsidyOf_iff, Nat.mul_comm, ← Nat.div_lt_iff_lt_mul s.halvingInterval_pos,
    Nat.lt_sub_iff_add_lt]

/-- A block of more than one sat is not the last one with a subsidy. -/
theorem succ_lt_blockCount {h : Nat} (hh : 1 < s.reward h) : h + 1 < s.blockCount := by
  have h1 : h < s.halvingInterval * (s.eraCount - 1) := (s.one_lt_reward_iff h).mp hh
  have h2 : s.halvingInterval * (s.eraCount - 1) + s.halvingInterval = s.blockCount := by
    rw [← Nat.mul_succ, Nat.succ_eq_add_one, Nat.sub_add_cancel s.eraCount_pos, blockCount]
  have h3 := s.halvingInterval_pos
  omega

/-- Every block that has a subsidy adds a sat. -/
theorem le_mined {h : Nat} (hh : h ≤ s.blockCount) : h ≤ s.mined h := by
  induction h with
  | zero => exact Nat.zero_le _
  | succ h ih =>
      have h1 := ih (Nat.le_of_succ_le hh)
      have h2 : 0 < s.reward h := (s.reward_pos_iff h).mpr hh
      rw [mined_succ]
      omega

/-- What is mined before a block of an era: the sats of the whole eras before, and those of the
blocks before in the same era. -/
theorem mined_era (e p : Nat) (hp : p ≤ s.halvingInterval) :
    s.mined (e * s.halvingInterval + p)
      = s.halvingInterval * ∑ i ∈ range e, s.subsidyOf i + p * s.subsidyOf e := by
  -- the blocks of an era all have its subsidy
  have hera : ∀ e p, p ≤ s.halvingInterval →
      ∑ i ∈ range p, s.reward (e * s.halvingInterval + i) = p * s.subsidyOf e := by
    intro e p hp
    rw [sum_congr rfl (g := fun _ => s.subsidyOf e), sum_const, card_range, smul_eq_mul]
    intro i hi
    have hi' : i < s.halvingInterval := Nat.lt_of_lt_of_le (mem_range.mp hi) hp
    rw [reward, Nat.mul_comm, Nat.mul_add_div s.halvingInterval_pos, Nat.div_eq_of_lt hi',
      Nat.add_zero]
  rw [mined, sum_range_add, hera e p hp]
  congr 1
  induction e with
  | zero => simp
  | succ e ih =>
      rw [Nat.succ_mul, sum_range_add, ih, hera e _ le_rfl, sum_range_succ, Nat.mul_add]

/-! ## The supply -/

/-- The number of all sats: the sum over all eras of the subsidy, for each block of an era. -/
noncomputable def supply : Nat := s.halvingInterval * ∑ᶠ e, s.subsidyOf e

/-- Only the first eras add something to the sum over all of them. -/
theorem finsum_subsidyOf : ∑ᶠ e, s.subsidyOf e = ∑ e ∈ range s.eraCount, s.subsidyOf e := by
  refine finsum_eq_sum_of_support_subset _ fun e he => ?_
  rw [coe_range, Set.mem_Iio, ← subsidyOf_pos_iff]
  exact Nat.pos_of_ne_zero he

/-- The supply is mined when no block has a subsidy any more. -/
theorem supply_eq_mined : s.supply = s.mined s.blockCount := by
  have hera := s.mined_era s.eraCount 0 (Nat.zero_le _)
  rw [Nat.zero_mul, Nat.add_zero, Nat.add_zero, Nat.mul_comm] at hera
  rw [supply, finsum_subsidyOf, blockCount, hera]

theorem mined_le_supply (h : Nat) : s.mined h ≤ s.supply := by
  rw [supply_eq_mined]
  rcases Nat.le_total h s.blockCount with hh | hh
  · exact s.mined_mono hh
  · -- no block from `blockCount` on has a subsidy
    have hzero : ∀ i ∈ range h, i ∉ range s.blockCount → s.reward i = 0 := by
      intro i _ hi
      have := s.reward_pos_iff i
      rw [mem_range] at hi
      omega
    exact (sum_subset (range_mono hh) hzero).ge

/-- A height at which not all is mined yet has a block with a subsidy. -/
theorem lt_blockCount_of_mined_lt {h : Nat} (hh : s.mined h < s.supply) : h < s.blockCount := by
  by_contra hcon
  have := s.mined_mono (Nat.le_of_not_lt hcon)
  rw [← supply_eq_mined] at this
  omega

end SatRarity.Schedule
