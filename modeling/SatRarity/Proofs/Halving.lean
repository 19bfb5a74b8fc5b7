import Mathlib.Data.Nat.Bits
import SatRarity.Proofs.Emission

set_option autoImplicit false

/-! # Halving and the total emission

A halving takes the last binary digit off the subsidy. So a subsidy is twice the next one and that
digit, and each era emits in a block twice its subsidy less twice the next one, less the digit. The
sum over all eras telescopes to twice the first subsidy, less one for each digit that is a one.

The main statement is `halves_until_exhausted`: how the subsidy falls, when it runs out, and what is
emitted until then.
-/

namespace SatRarity

open Finset

/-! ## Binary ones -/

/-- The number of ones among the binary digits. -/
def ones (n : ℕ) : ℕ := n.bits.count true

@[simp] theorem ones_zero : ones 0 = 0 := by rw [ones, Nat.zero_bits, List.count_nil]

/-- Halving takes the last digit away. -/
theorem ones_eq (n : ℕ) : ones n = ones (n / 2) + n % 2 := by
  rcases Nat.even_or_odd' n with ⟨m, rfl | rfl⟩
  · have hhalf : 2 * m / 2 = m := by omega
    have hdigit : 2 * m % 2 = 0 := by omega
    rw [hhalf, hdigit, Nat.add_zero]
    rcases Nat.eq_zero_or_pos m with rfl | hm
    · rfl
    · rw [ones, Nat.bit0_bits m hm.ne', List.count_cons_of_ne (by decide), ones]
  · have hhalf : (2 * m + 1) / 2 = m := by omega
    have hdigit : (2 * m + 1) % 2 = 1 := by omega
    rw [hhalf, hdigit, ones, Nat.bit1_bits, List.count_cons_self, ones]

theorem ones_pos {n : ℕ} (hn : 0 < n) : 0 < ones n := by
  induction n using Nat.strong_induction_on with
  | h n ih =>
      rw [ones_eq]
      rcases Nat.eq_zero_or_pos (n % 2) with hdigit | hdigit
      · have hhalf := ih (n / 2) (by omega) (by omega)
        omega
      · omega

namespace Schedule

variable (s : Schedule)

/-! ## The subsidy of an era -/

theorem subsidy_natCast (e : ℕ) : s.subsidy e = .ok (s.subsidyOf e) :=
  if_pos (Int.natCast_nonneg e)

theorem subsidy_of_neg {e : ℤ} (he : e < 0) : s.subsidy e = .error .negativeEpoch :=
  if_neg (Int.not_le.mpr he)

theorem antitone_subsidyOf : Antitone s.subsidyOf :=
  antitone_nat_of_succ_le fun e => by
    rw [subsidyOf_succ]
    exact Nat.div_le_self _ _

theorem subsidyOf_eq_zero_iff (e : ℕ) : s.subsidyOf e = 0 ↔ s.eraCount ≤ e := by
  rw [← Nat.not_lt, ← subsidyOf_pos_iff, Nat.pos_iff_ne_zero, not_not]

/-- The last subsidy that is not zero is one. -/
theorem subsidyOf_last : s.subsidyOf (s.eraCount - 1) = 1 := by
  have hpos := (s.subsidyOf_pos_iff (s.eraCount - 1)).mpr (Nat.sub_one_lt s.eraCount_pos.ne')
  have hone := s.one_lt_subsidyOf_iff (s.eraCount - 1)
  have hL := s.eraCount_pos
  omega

/-! ## The total emission -/

/-- An era emits in a block what the next halving leaves out of twice its subsidy, but for the digit
that is rounded off. -/
theorem subsidyOf_add_ones (e : ℕ) :
    s.subsidyOf e + ones (s.subsidyOf e) + 2 * s.subsidyOf (e + 1)
      = 2 * s.subsidyOf e + ones (s.subsidyOf (e + 1)) := by
  have hones := ones_eq (s.subsidyOf e)
  rw [subsidyOf_succ]
  omega

/-- What the first eras emit in a block each, with what is still to be halved. -/
theorem sum_subsidyOf_add (e : ℕ) :
    (∑ i ∈ range e, s.subsidyOf i) + ones s.initialSubsidy + 2 * s.subsidyOf e
      = 2 * s.initialSubsidy + ones (s.subsidyOf e) := by
  induction e with
  | zero => simp [Nat.add_comm]
  | succ e ih =>
      have hera := s.subsidyOf_add_ones e
      rw [sum_range_succ]
      omega

/-- All eras together emit in a block each twice the first subsidy, less its binary ones. -/
theorem finsum_subsidyOf_add :
    (∑ᶠ e, s.subsidyOf e) + ones s.initialSubsidy = 2 * s.initialSubsidy := by
  have hsum := s.sum_subsidyOf_add s.eraCount
  rw [(s.subsidyOf_eq_zero_iff _).mpr le_rfl] at hsum
  rw [finsum_subsidyOf]
  simpa using hsum

/-- The subsidy starts from the first one, is halved and rounded down with each era, and never
rises; it is zero from the era on whose number is the binary length of the first subsidy, and one in
the era before. What is emitted until then is told by the first subsidy and its binary ones. There
is no subsidy of a negative epoch. -/
theorem halves_until_exhausted (s : Schedule) :
    (∀ e : ℕ, s.subsidy e = .ok (s.subsidyOf e))
    ∧ (∀ e : ℤ, e < 0 → s.subsidy e = .error .negativeEpoch)
    ∧ s.subsidyOf 0 = s.initialSubsidy
    ∧ (∀ e, s.subsidyOf (e + 1) = s.subsidyOf e / 2)
    ∧ Antitone s.subsidyOf
    ∧ IsLeast {l | s.initialSubsidy < 2 ^ l} s.eraCount
    ∧ (∀ e, s.subsidyOf e = 0 ↔ s.eraCount ≤ e)
    ∧ IsGreatest {e | 0 < s.subsidyOf e} (s.eraCount - 1)
    ∧ s.subsidyOf (s.eraCount - 1) = 1
    ∧ ((s.halvingInterval * ∑ᶠ e, s.subsidyOf e : ℕ) : ℤ)
      = s.halvingInterval * (2 * s.initialSubsidy - ones s.initialSubsidy)
    ∧ s.halvingInterval * ∑ᶠ e, s.subsidyOf e < 2 * s.halvingInterval * s.initialSubsidy := by
  have hlast := s.subsidyOf_last
  have hsum := s.finsum_subsidyOf_add
  have hones := ones_pos s.initialSubsidy_pos
  refine ⟨s.subsidy_natCast, fun e => s.subsidy_of_neg, s.subsidyOf_zero, s.subsidyOf_succ,
    s.antitone_subsidyOf, ⟨Nat.lt_size_self _, fun l hl => Nat.size_le.mpr hl⟩,
    s.subsidyOf_eq_zero_iff, ⟨?_, ?_⟩, hlast, ?_, ?_⟩
  · show 0 < s.subsidyOf (s.eraCount - 1)
    omega
  · intro e he
    have hlt : e < s.eraCount := (s.subsidyOf_pos_iff e).mp he
    omega
  · have hdiff : ((∑ᶠ e, s.subsidyOf e : ℕ) : ℤ) = 2 * s.initialSubsidy - ones s.initialSubsidy := by
      omega
    rw [Nat.cast_mul, hdiff]
  · calc s.halvingInterval * ∑ᶠ e, s.subsidyOf e
        < s.halvingInterval * (2 * s.initialSubsidy) :=
          Nat.mul_lt_mul_of_pos_left (by omega) s.halvingInterval_pos
      _ = 2 * s.halvingInterval * s.initialSubsidy := by ring

/-- The standard schedule has no subsidy before the first era. -/
theorem halves_until_exhausted_standard :
    (-1 : ℤ) < 0 ∧ standard.subsidy (-1) = .error .negativeEpoch :=
  ⟨by decide, (halves_until_exhausted standard).2.1 (-1) (by decide)⟩

end Schedule

end SatRarity
