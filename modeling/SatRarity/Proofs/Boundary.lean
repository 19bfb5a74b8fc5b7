import SatRarity.Proofs.Location

set_option autoImplicit false

/-! # Tiers and boundaries

A boundary of an era lies below every block whose height the length of an era divides, and a
boundary of a period likewise. A block opens the boundaries at its own height and closes those at
the next height. So the tier of a sat depends on two things only: whether it is the first or the
last one of its block, and which lengths divide a height.
-/

namespace SatRarity

/-! ## Boundaries at a height -/

/-- A remainder is the greatest one exactly below a multiple. -/
theorem emod_eq_pred_iff {b : ℤ} (hb : 0 < b) (a : ℤ) : (a - 1) % b = b - 1 ↔ b ∣ a := by
  constructor
  · intro h
    have hdiv := Int.mul_ediv_add_emod (a - 1) b
    exact ⟨(a - 1) / b + 1, by rw [Int.mul_add]; omega⟩
  · rintro ⟨q, rfl⟩
    have hsplit : b * q - 1 = b - 1 + b * (q - 1) := by ring
    rw [hsplit, Int.add_mul_emod_self_left]
    exact Int.emod_eq_of_lt (by omega) (by omega)

/-- The boundaries that lie below the block at a height. -/
def Schedule.boundariesAt (s : Schedule) (h : Nat) : Boundaries where
  era := s.halvingInterval ∣ h
  period := s.diffchangeInterval ∣ h

namespace Boundaries

theorem isBlack_openingTier (b : Boundaries) : b.openingTier.isBlack = false := by
  obtain ⟨_ | _, _ | _⟩ := b <;> rfl

theorem isBlack_closingTier (b : Boundaries) : b.closingTier.isBlack = true := by
  obtain ⟨_ | _, _ | _⟩ := b <;> rfl

theorem openingTier_inj {b b' : Boundaries} : b.openingTier = b'.openingTier ↔ b = b' := by
  obtain ⟨_ | _, _ | _⟩ := b <;> obtain ⟨_ | _, _ | _⟩ := b' <;> decide

theorem closingTier_inj {b b' : Boundaries} : b.closingTier = b'.closingTier ↔ b = b' := by
  obtain ⟨_ | _, _ | _⟩ := b <;> obtain ⟨_ | _, _ | _⟩ := b' <;> decide

theorem openingTier_ne_common (b : Boundaries) : b.openingTier ≠ .common := by
  obtain ⟨_ | _, _ | _⟩ := b <;> decide

theorem openingTier_ne_mythic (b : Boundaries) : b.openingTier ≠ .mythic := by
  obtain ⟨_ | _, _ | _⟩ := b <;> decide

theorem closingTier_ne_common (b : Boundaries) : b.closingTier ≠ .common := by
  obtain ⟨_ | _, _ | _⟩ := b <;> decide

theorem closingTier_ne_mythic (b : Boundaries) : b.closingTier ≠ .mythic := by
  obtain ⟨_ | _, _ | _⟩ := b <;> decide

theorem openingTier_ne_closingTier (b b' : Boundaries) : b.openingTier ≠ b'.closingTier := by
  intro h
  have hblack := b'.isBlack_closingTier
  rw [← h, b.isBlack_openingTier] at hblack
  cases hblack

/-- What is closed has the name of what is opened, and the colour before it. -/
theorem name_closingTier (b : Boundaries) :
    b.closingTier.name = "black_" ++ b.openingTier.name := by
  obtain ⟨_ | _, _ | _⟩ := b <;> rfl

end Boundaries

variable (s : Schedule)

/-- What a block opens tells which lengths divide its height. -/
theorem openingTier_boundariesAt (h : Nat) :
    ((s.boundariesAt h).openingTier = .legendary
      ↔ s.halvingInterval ∣ h ∧ s.diffchangeInterval ∣ h)
    ∧ ((s.boundariesAt h).openingTier = .epic
      ↔ s.halvingInterval ∣ h ∧ ¬s.diffchangeInterval ∣ h)
    ∧ ((s.boundariesAt h).openingTier = .rare
      ↔ s.diffchangeInterval ∣ h ∧ ¬s.halvingInterval ∣ h)
    ∧ ((s.boundariesAt h).openingTier = .uncommon
      ↔ ¬s.halvingInterval ∣ h ∧ ¬s.diffchangeInterval ∣ h) := by
  by_cases hH : s.halvingInterval ∣ h <;> by_cases hD : s.diffchangeInterval ∣ h <;>
    simp [Schedule.boundariesAt, Boundaries.openingTier, hH, hD]

/-- What a block closes tells which lengths divide the next height. -/
theorem closingTier_boundariesAt (h : Nat) :
    ((s.boundariesAt h).closingTier = .blackLegendary
      ↔ s.halvingInterval ∣ h ∧ s.diffchangeInterval ∣ h)
    ∧ ((s.boundariesAt h).closingTier = .blackEpic
      ↔ s.halvingInterval ∣ h ∧ ¬s.diffchangeInterval ∣ h)
    ∧ ((s.boundariesAt h).closingTier = .blackRare
      ↔ s.diffchangeInterval ∣ h ∧ ¬s.halvingInterval ∣ h)
    ∧ ((s.boundariesAt h).closingTier = .blackUncommon
      ↔ ¬s.halvingInterval ∣ h ∧ ¬s.diffchangeInterval ∣ h) := by
  by_cases hH : s.halvingInterval ∣ h <;> by_cases hD : s.diffchangeInterval ∣ h <;>
    simp [Schedule.boundariesAt, Boundaries.closingTier, hH, hD]

theorem opened_place (h i : Nat) : (s.place h i).opened = s.boundariesAt h := by
  simp only [Coordinate.opened, Schedule.place, Schedule.boundariesAt, Int.natCast_eq_zero,
    Nat.dvd_iff_mod_eq_zero]

theorem closed_place (h i : Nat) : (s.place h i).closed s = s.boundariesAt (h + 1) := by
  have hlast : ∀ b : Nat, 0 < b → (((h % b : Nat) : Int) = (b : Int) - 1 ↔ b ∣ h + 1) := by
    intro b hb
    have hpred := emod_eq_pred_iff (Int.natCast_pos.mpr hb) ((h + 1 : Nat) : Int)
    rwa [Int.natCast_dvd_natCast, Int.natCast_add, Int.natCast_one, Int.add_sub_cancel] at hpred
  simp only [Coordinate.closed, Schedule.place, Schedule.boundariesAt,
    hlast _ s.halvingInterval_pos, hlast _ s.diffchangeInterval_pos]

/-! ## The tiers of a block -/

/-- The sat at the given position of the block of a coordinate. -/
def Coordinate.sat (c : Coordinate) (i : Nat) : Coordinate := { c with subsidyPosition := i }

section Sat

variable (c : Coordinate)

theorem classify_sat_zero (u : Int) :
    classify s u (c.sat 0)
      = if c.epoch = 0 ∧ c.opened = ⟨true, true⟩ then .mythic else c.opened.openingTier := by
  have hfirst : (c.sat 0).subsidyPosition = 0 := rfl
  rw [classify, if_pos hfirst]
  rfl

theorem classify_sat_last {u i : Nat} (hi : 0 < i) (hu : i + 1 = u) :
    classify s u (c.sat i) = (c.closed s).closingTier := by
  have hfirst : (c.sat i).subsidyPosition ≠ 0 := by simp only [Coordinate.sat]; omega
  have hlast : (c.sat i).subsidyPosition = (u : Int) - 1 := by simp only [Coordinate.sat]; omega
  rw [classify, if_neg hfirst, if_pos hlast]
  rfl

theorem classify_sat_inner {u i : Nat} (hi : 0 < i) (hu : i + 1 ≠ u) :
    classify s u (c.sat i) = .common := by
  have hfirst : (c.sat i).subsidyPosition ≠ 0 := by simp only [Coordinate.sat]; omega
  have hlast : (c.sat i).subsidyPosition ≠ (u : Int) - 1 := by simp only [Coordinate.sat]; omega
  rw [classify, if_neg hfirst, if_neg hlast]

end Sat

theorem sat_place (h i : Nat) : (s.place h 0).sat i = s.place h i := rfl

/-- The first sat of a block has the tier of what the block opens; only the very first is above. -/
theorem classify_first (u : Int) (h : Nat) :
    classify s u (s.place h 0) = if h = 0 then .mythic else (s.boundariesAt h).openingTier := by
  -- a height that the length of an era divides is zero if it is in the first era
  have hzero : (s.place h 0).epoch = 0 ∧ s.boundariesAt h = ⟨true, true⟩ ↔ h = 0 := by
    simp only [Schedule.place, Schedule.boundariesAt, Boundaries.mk.injEq, decide_eq_true_eq,
      Int.natCast_eq_zero]
    constructor
    · rintro ⟨hdiv, hdvd, -⟩
      rw [← Nat.div_mul_cancel hdvd, hdiv, Nat.zero_mul]
    · rintro rfl
      exact ⟨Nat.zero_div _, dvd_zero _, dvd_zero _⟩
  rw [← sat_place, classify_sat_zero, opened_place]
  simp only [hzero]

/-- The last sat of a block, if it is not the first, has the tier of what the block closes. -/
theorem classify_last {u i : Nat} (hi : 0 < i) (hu : i + 1 = u) (h : Nat) :
    classify s u (s.place h i) = (s.boundariesAt (h + 1)).closingTier := by
  rw [← sat_place, classify_sat_last s _ hi hu, closed_place]

/-- A sat that is neither the first nor the last of its block is common. -/
theorem classify_inner {u i : Nat} (hi : 0 < i) (hu : i + 1 ≠ u) (h : Nat) :
    classify s u (s.place h i) = .common := by
  rw [← sat_place, classify_sat_inner s _ hi hu]

/-! ## The tier of an ordinal -/

/-- The subsidy of a place in a block is the one that the schedule gives for its epoch. -/
theorem subsidy_place (h i : Nat) : s.subsidy (s.place h i).epoch = .ok (s.reward h) := by
  rw [Schedule.subsidy, Schedule.place, if_pos (Int.natCast_nonneg _), Int.toNat_natCast]
  rfl

/-- Where an ordinal is located, its tier is told by its place in the block and by the lengths that
divide the height of the block, or the next height. -/
theorem classify_of_locates {n : Nat} {c : Coordinate} (hc : s.Locates n c) :
    ∃ (u h : Nat) (t : Tier),
      s.subsidy c.epoch = .ok u ∧ s.heightOf c = h ∧ classify s u c = t
      ∧ (c.subsidyPosition = 0 →
          (t = .mythic ↔ n = 0)
          ∧ (t = .legendary ↔ 0 < n ∧ s.halvingInterval ∣ h ∧ s.diffchangeInterval ∣ h)
          ∧ (t = .epic ↔ s.halvingInterval ∣ h ∧ ¬s.diffchangeInterval ∣ h)
          ∧ (t = .rare ↔ s.diffchangeInterval ∣ h ∧ ¬s.halvingInterval ∣ h)
          ∧ (t = .uncommon ↔ ¬s.halvingInterval ∣ h ∧ ¬s.diffchangeInterval ∣ h))
      ∧ (0 < c.subsidyPosition → c.subsidyPosition = u - 1 →
          (t = .blackLegendary ↔ s.halvingInterval ∣ h + 1 ∧ s.diffchangeInterval ∣ h + 1)
          ∧ (t = .blackEpic ↔ s.halvingInterval ∣ h + 1 ∧ ¬s.diffchangeInterval ∣ h + 1)
          ∧ (t = .blackRare ↔ s.diffchangeInterval ∣ h + 1 ∧ ¬s.halvingInterval ∣ h + 1)
          ∧ (t = .blackUncommon ↔ ¬s.halvingInterval ∣ h + 1 ∧ ¬s.diffchangeInterval ∣ h + 1))
      ∧ (c.subsidyPosition ≠ 0 → c.subsidyPosition ≠ u - 1 → t = .common) := by
  obtain ⟨h, i, hi, rfl, rfl⟩ := hc.exists_place
  refine ⟨s.reward h, h, _, subsidy_place s h i, s.heightOf_place h i, rfl, ?_, ?_, ?_⟩
  · intro hfirst
    obtain rfl : i = 0 := Int.natCast_eq_zero.mp hfirst
    by_cases hh : h = 0
    · subst hh
      simp [classify_first]
    · -- a block that is not the very first has sats below it
      have hn : 0 < s.mined h + 0 :=
        Nat.lt_of_lt_of_le (Nat.pos_of_ne_zero hh) (s.le_mined ((s.reward_pos_iff h).mp hi).le)
      obtain ⟨hleg, hepic, hrare, huncommon⟩ := openingTier_boundariesAt s h
      rw [classify_first, if_neg hh, hleg, hepic, hrare, huncommon]
      refine ⟨?_, (and_iff_right hn).symm, Iff.rfl, Iff.rfl, Iff.rfl⟩
      exact iff_of_false (Boundaries.openingTier_ne_mythic _) hn.ne'
  · intro hpos hlast
    have hu : i + 1 = s.reward h := by simp only [Schedule.place] at hlast; omega
    rw [classify_last s (Int.natCast_pos.mp hpos) hu]
    exact closingTier_boundariesAt s (h + 1)
  · intro hfirst hlast
    have hi0 : i ≠ 0 := fun hzero => hfirst (Int.natCast_eq_zero.mpr hzero)
    have hu : i + 1 ≠ s.reward h := by simp only [Schedule.place] at hlast; omega
    exact classify_inner s (Nat.pos_of_ne_zero hi0) hu h

/-- The last sat of the second era closes a period as well. -/
theorem classify_of_locates_era_end :
    Schedule.short.Locates 35 ⟨1, 5, 3, 1⟩
      ∧ ∃ u : Nat, Schedule.short.subsidy 1 = .ok u
        ∧ classify .short u ⟨1, 5, 3, 1⟩ = .blackLegendary := by
  have hc : Schedule.short.Locates 35 ⟨1, 5, 3, 1⟩ := by constructor <;> decide
  obtain ⟨u, h, t, hu, hh, rfl, -, hclosing, -⟩ := classify_of_locates .short hc
  have h2 : 2 = u := Except.ok.inj hu
  have h11 : h = 11 := (Int.ofNat_inj.mp hh).symm
  subst h2 h11
  exact ⟨hc, 2, hu, (hclosing (by decide) (by decide)).1.mpr (by decide)⟩

end SatRarity
