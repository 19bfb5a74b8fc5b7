import Mathlib.Data.Prod.Lex
import SatRarity.Proofs.Acceptance
import SatRarity.Proofs.Boundary

set_option autoImplicit false

/-! # The numbering of the positions

A position is a coordinate that the validation accepts under the subsidy of its own epoch, whose
block is one of its era and has the place in the period that its height tells. The ordinals below
the supply number the positions in the order of era, block and sat: `exists_locates_iff` says that a
coordinate has an ordinal if and only if it is a position, `Locates.lt_iff_key_lt` that the order is
the lexicographic one, and `numbers_positions` that none is left out or numbered twice.
-/

namespace SatRarity

/-- The era, the block in the era and the sat in the block. The place in the period is left out: it
follows from the height of the block. -/
def Coordinate.key (c : Coordinate) : ℤ ×ₗ ℤ ×ₗ ℤ :=
  toLex (c.epoch, toLex (c.epochPosition, c.subsidyPosition))

theorem Coordinate.key_lt_key_iff {c d : Coordinate} :
    c.key < d.key ↔ c.epoch < d.epoch ∨ c.epoch = d.epoch ∧
      (c.epochPosition < d.epochPosition ∨ c.epochPosition = d.epochPosition ∧
        c.subsidyPosition < d.subsidyPosition) := by
  rw [key, key, Prod.Lex.toLex_lt_toLex, Prod.Lex.toLex_lt_toLex]

namespace Schedule

/-- The coordinate of a block and a sat that the schedule has. -/
structure IsPosition (s : Schedule) (c : Coordinate) : Prop where
  valid : ∃ u : Nat, s.subsidy c.epoch = .ok u ∧ c.validate u = .ok ()
  epochPosition_lt : c.epochPosition < s.halvingInterval
  periodPosition_eq : c.periodPosition = s.heightOf c % s.diffchangeInterval

variable {s : Schedule}

/-! ## Positions and ordinals -/

theorem Locates.isPosition {n : Nat} {c : Coordinate} (h : s.Locates n c) : s.IsPosition c where
  valid := by
    have hlt := h.subsidyPosition_lt
    have hnonneg := h.subsidyPosition_nonneg
    have hperiod : 0 ≤ c.periodPosition := by
      rw [h.periodPosition_eq]
      exact Int.emod_nonneg _ (Int.natCast_ne_zero.mpr s.diffchangeInterval_pos.ne')
    refine ⟨s.subsidyOf c.epoch.toNat, by rw [subsidy, if_pos h.epoch_nonneg], ?_⟩
    rw [Coordinate.validate_eq_ok_iff, Coordinate.Field.forall_iff]
    exact ⟨⟨h.epoch_nonneg, h.epochPosition_nonneg, hperiod, hnonneg⟩, by omega, hlt⟩
  epochPosition_lt := h.epochPosition_lt
  periodPosition_eq := h.periodPosition_eq

/-- The ordinal of a position is the number of the sats before it. -/
theorem IsPosition.exists_locates {c : Coordinate} (h : s.IsPosition c) : ∃ n, s.Locates n c := by
  obtain ⟨u, hu, hvalid⟩ := h.valid
  obtain ⟨hnonneg, -, hlt⟩ := Coordinate.validate_eq_ok_iff.mp hvalid
  have hepoch : 0 ≤ c.epoch := hnonneg .epoch
  have hposition : 0 ≤ c.epochPosition := hnonneg .epochPosition
  have hsat : 0 ≤ c.subsidyPosition := hnonneg .subsidyPosition
  rw [subsidy, if_pos hepoch] at hu
  obtain rfl := Except.ok.inj hu
  have heras : 0 ≤ s.halvingInterval * ∑ i ∈ Finset.range c.epoch.toNat, (s.subsidyOf i : Int) :=
    Int.mul_nonneg (Int.natCast_nonneg _) (Finset.sum_nonneg fun i _ => Int.natCast_nonneg _)
  have hblocks : 0 ≤ c.epochPosition * s.subsidyOf c.epoch.toNat :=
    Int.mul_nonneg hposition (Int.natCast_nonneg _)
  obtain ⟨n, hn⟩ := Int.eq_ofNat_of_zero_le (Int.add_nonneg (Int.add_nonneg heras hblocks) hsat)
  exact ⟨n, hepoch, hposition, h.epochPosition_lt, h.periodPosition_eq, hsat, hlt, hn.symm⟩

theorem exists_locates_iff {c : Coordinate} : (∃ n, s.Locates n c) ↔ s.IsPosition c :=
  ⟨fun ⟨_, h⟩ => h.isPosition, IsPosition.exists_locates⟩

/-- Two ordinals are not at one coordinate. -/
theorem Locates.ordinal_unique {m n : Nat} {c : Coordinate} (hm : s.Locates m c)
    (hn : s.Locates n c) : m = n := by
  have h := hm.ordinal_eq.trans hn.ordinal_eq.symm
  exact Int.ofNat_inj.mp h

/-! ## The order -/

/-- Heights are ordered by the era, and within an era by the block. -/
theorem height_lt_iff (s : Schedule) (h h' : Nat) :
    h < h' ↔ h / s.halvingInterval < h' / s.halvingInterval
      ∨ h / s.halvingInterval = h' / s.halvingInterval
        ∧ h % s.halvingInterval < h' % s.halvingInterval := by
  have hdiv := Nat.div_add_mod h s.halvingInterval
  have hdiv' := Nat.div_add_mod h' s.halvingInterval
  constructor
  · intro hlt
    have hle : h / s.halvingInterval ≤ h' / s.halvingInterval := Nat.div_le_div_right hlt.le
    rcases Nat.lt_or_eq_of_le hle with hera | hera
    · exact Or.inl hera
    · rw [← hera] at hdiv'
      exact Or.inr ⟨hera, by omega⟩
  · rintro (hera | ⟨hera, hblock⟩)
    · exact Nat.lt_of_div_lt_div hera
    · rw [← hera] at hdiv'
      omega

/-- Sats are ordered by the block, and within a block by the index. -/
theorem mined_add_lt_iff {h h' i i' : Nat} (hi : i < s.reward h) (hi' : i' < s.reward h') :
    s.mined h + i < s.mined h' + i' ↔ h < h' ∨ h = h' ∧ i < i' := by
  -- the sats of a block come before those of every later block
  have hbefore : ∀ {a b j : Nat}, j < s.reward a → a < b → s.mined a + j < s.mined b := by
    intro a b j hj hab
    calc s.mined a + j < s.mined a + s.reward a := Nat.add_lt_add_left hj _
      _ = s.mined (a + 1) := (s.mined_succ a).symm
      _ ≤ s.mined b := s.mined_mono hab
  rcases Nat.lt_trichotomy h h' with hlt | rfl | hgt
  · have := hbefore hi hlt
    omega
  · omega
  · have := hbefore hi' hgt
    omega

theorem key_place_lt_iff (s : Schedule) (h h' i i' : Nat) :
    (s.place h i).key < (s.place h' i').key ↔ h < h' ∨ h = h' ∧ i < i' := by
  have hdiv := Nat.div_add_mod h s.halvingInterval
  have hdiv' := Nat.div_add_mod h' s.halvingInterval
  have hlt := s.height_lt_iff h h'
  -- the height is told by the era and the block
  have heq : h = h' ↔ h / s.halvingInterval = h' / s.halvingInterval
      ∧ h % s.halvingInterval = h' % s.halvingInterval := by
    constructor
    · rintro rfl
      exact ⟨rfl, rfl⟩
    · rintro ⟨hera, hblock⟩
      rw [← hdiv, ← hdiv', hera, hblock]
  simp only [Coordinate.key_lt_key_iff, place, Int.ofNat_lt, Int.ofNat_inj, hlt, heq]
  tauto

/-- The order of the ordinals is the lexicographic one of their coordinates. -/
theorem Locates.lt_iff_key_lt {m n : Nat} {c d : Coordinate} (hc : s.Locates m c)
    (hd : s.Locates n d) : m < n ↔ c.key < d.key := by
  obtain ⟨h, i, hi, rfl, rfl⟩ := hc.exists_place
  obtain ⟨h', i', hi', rfl, rfl⟩ := hd.exists_place
  rw [mined_add_lt_iff hi hi', key_place_lt_iff]

/-! ## The numbering -/

/-- The ordinals below the supply number the positions: each of them is at one coordinate, which the
validation accepts, each position has one of them, and later ordinals are at greater coordinates. -/
theorem numbers_positions (s : Schedule) :
    (∀ n < s.supply, ∃! c, s.Locates n c)
    ∧ (∀ n c, s.Locates n c →
        ∃ u : Nat, s.subsidy c.epoch = .ok u ∧ c.validate u = .ok ())
    ∧ (∀ m n c d, s.Locates m c → s.Locates n d → (m < n ↔ c.key < d.key))
    ∧ (∀ (c : Coordinate) (u : Nat), s.subsidy c.epoch = .ok u → c.validate u = .ok () →
        c.epochPosition < s.halvingInterval →
        c.periodPosition = s.heightOf c % s.diffchangeInterval →
          ∃! n, n < s.supply ∧ s.Locates n c) := by
  refine ⟨fun n hn => ?_, fun n c h => h.isPosition.valid, fun m n c d hc hd =>
    hc.lt_iff_key_lt hd, fun c u hu hvalid hblock hperiod => ?_⟩
  · refine ⟨s.locate n, (s.locates_iff n _).mpr ⟨hn, rfl⟩, fun c hc => ?_⟩
    exact ((s.locates_iff n c).mp hc).2.symm
  · obtain ⟨n, hn⟩ := exists_locates_iff.mpr ⟨⟨u, hu, hvalid⟩, hblock, hperiod⟩
    exact ⟨n, ⟨((s.locates_iff n c).mp hn).1, hn⟩, fun m hm => hm.2.ordinal_unique hn⟩

/-- The last sat of the second era of the short schedule and the sat after it: the era goes up while
the block and the index fall back. -/
theorem numbers_positions_era_end :
    (∃! n, n < short.supply ∧ short.Locates n ⟨1, 5, 3, 1⟩)
      ∧ (⟨1, 5, 3, 1⟩ : Coordinate).key < (⟨2, 0, 0, 0⟩ : Coordinate).key := by
  have hlast : short.Locates 35 ⟨1, 5, 3, 1⟩ := by constructor <;> decide
  have hnext : short.Locates 36 ⟨2, 0, 0, 0⟩ := by constructor <;> decide
  obtain ⟨-, -, horder, hordinal⟩ := numbers_positions short
  exact ⟨hordinal ⟨1, 5, 3, 1⟩ 2 (by decide) (by decide) (by decide) (by decide),
    (horder 35 36 _ _ hlast hnext).mp (by decide)⟩

end Schedule

end SatRarity
