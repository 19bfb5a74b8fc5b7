import SatRarity.Derivation
import SatRarity.Proofs.Decimal
import SatRarity.Validation.Submission

set_option autoImplicit false

/-! # Which derivations are accepted

A coordinate is accepted under a subsidy if no field is negative, the subsidy is positive and the
position in the subsidy is below it, `validate_eq_ok_iff`; whatever else is wrong, the first
negative field is the error, `validate_negative`. The only error that may have no message is about
the position in the subsidy, and it has one if the position keeps to the limit of numerals,
`validate_ne_unwritable`. A derivation validates against the subsidy that counts,
`Submission.subsidyIn`, which has a value as soon as the epoch is not negative.
-/

namespace SatRarity

open Text

/-! ## Coordinates -/

namespace Coordinate

/-- The first field below zero, in the order of declaration. -/
def firstNegative? (c : Coordinate) : Option Field := Field.all.find? fun f => c.get f < 0

theorem Field.mem_all (f : Field) : f ∈ Field.all := by
  cases f <;> decide

theorem firstNegative?_eq_none_iff {c : Coordinate} :
    c.firstNegative? = none ↔ ∀ f, 0 ≤ c.get f := by
  simp only [firstNegative?, List.find?_eq_none, decide_eq_true_eq, Int.not_lt]
  exact ⟨fun h f => h f f.mem_all, fun h f _ => h f⟩

theorem negative_of_firstNegative? {c : Coordinate} {f : Field} (h : c.firstNegative? = some f) :
    c.get f < 0 := by
  simpa using List.find?_some h

/-- If the epoch is not the first negative field, it is not negative. -/
theorem epoch_nonneg_of_firstNegative? {c : Coordinate} {f : Field}
    (h : c.firstNegative? = some f) (hf : f ≠ .epoch) : 0 ≤ c.epoch := by
  -- otherwise the search would have stopped at the epoch, which comes first
  refine Int.not_lt.mp fun hneg => ?_
  have hfirst : c.firstNegative? = some .epoch := by
    have hepoch : c.get .epoch < 0 := hneg
    simp [firstNegative?, Field.all, hepoch]
  exact hf (Option.some.inj (h.symm.trans hfirst))

/-- A negative field is the error, whatever the subsidy is, and the first one counts. -/
theorem validate_negative {c : Coordinate} {f : Field} (h : c.firstNegative? = some f)
    (subsidy : Int) : c.validate subsidy = .error (.stated (.negative f)) := by
  rw [validate, ← firstNegative?, h]
  rfl

/-- Without a negative field the subsidy is looked at, and then the position in it. -/
theorem validate_nonneg {c : Coordinate} (h : ∀ f, 0 ≤ c.get f) (subsidy : Int) :
    c.validate subsidy
      = if subsidy ≤ 0 then .error (.stated .subsidyNotPositive)
        else if subsidy ≤ c.subsidyPosition then
          .error (Error.outside c.subsidyPosition subsidy).raised
        else .ok () := by
  rw [validate, ← firstNegative?, firstNegative?_eq_none_iff.mpr h]
  rfl

theorem validate_eq_ok_iff {c : Coordinate} {subsidy : Int} :
    c.validate subsidy = .ok ()
      ↔ (∀ f, 0 ≤ c.get f) ∧ 0 < subsidy ∧ c.subsidyPosition < subsidy := by
  -- either the search for a negative field ends the validation, or the subsidy is looked at
  cases hfirst : c.firstNegative? with
  | some f =>
      rw [validate_negative hfirst]
      constructor
      · intro h
        cases h
      · rintro ⟨hnonneg, -, -⟩
        exact absurd (negative_of_firstNegative? hfirst) (Int.not_lt.mpr (hnonneg f))
  | none =>
      have hnonneg := firstNegative?_eq_none_iff.mp hfirst
      rw [validate_nonneg hnonneg]
      constructor
      · intro h
        split at h
        · cases h
        · split at h
          · cases h
          · exact ⟨hnonneg, by omega, by omega⟩
      · rintro ⟨-, hpos, hlt⟩
        rw [if_neg (by omega), if_neg (by omega)]

/-! ## Messages of the validation -/

/-- A positive subsidy is closer to zero than a position outside it. -/
theorem Error.isWritable_outside_iff {p u : Int} (hpos : 0 < u) (hle : u ≤ p) :
    (outside p u).IsWritable ↔ WithinLimit p := by
  constructor
  · rintro ⟨hp, -⟩
    exact hp
  · intro hp
    exact ⟨hp, hp.of_natAbs_le (by omega)⟩

theorem Error.raised_eq_stated_iff {e e' : Error} :
    e.raised = .stated e' ↔ e = e' ∧ e.IsWritable := by
  unfold raised
  split <;> simp_all

theorem Error.raised_eq_unwritable_iff {e : Error} : e.raised = .unwritable ↔ ¬ e.IsWritable := by
  unfold raised
  split <;> simp_all

/-- Where the position keeps to the limit, every error has its message. -/
theorem validate_ne_unwritable {c : Coordinate} (h : WithinLimit c.subsidyPosition)
    (subsidy : Int) : c.validate subsidy ≠ .error .unwritable := by
  intro hvalidate
  cases hfirst : c.firstNegative? with
  | some f =>
      rw [validate_negative hfirst] at hvalidate
      cases hvalidate
  | none =>
      rw [validate_nonneg (firstNegative?_eq_none_iff.mp hfirst)] at hvalidate
      split at hvalidate
      · cases hvalidate
      · split at hvalidate
        case isTrue hpos hle =>
          have hwritable := (Error.isWritable_outside_iff (Int.not_le.mp hpos) hle).mpr h
          exact Error.raised_eq_unwritable_iff.mp (Except.error.inj hvalidate) hwritable
        case isFalse => cases hvalidate

end Coordinate

/-! ## Derivations -/

/-- No subsidy is above the first one. -/
theorem Schedule.withinLimit_subsidyOf {s : Schedule}
    (hs : ∀ k, WithinLimit (s.parameters.get k)) (epoch : Nat) :
    WithinLimit (s.subsidyOf epoch) := by
  have hfirst : WithinLimit s.initialSubsidy := hs .initialSubsidy
  exact hfirst.of_natAbs_le (Nat.shiftRight_le _ _)

namespace Submission

/-- The subsidy that counts: the one that is submitted, or else that of the epoch. -/
def subsidyIn (s : Schedule) (x : Submission) : Int :=
  x.subsidy.getD (s.subsidyOf x.coordinate.epoch.toNat)

/-- What a submission is derived to, if it is accepted. -/
def derivation (s : Schedule) (x : Submission) : Derivation :=
  ⟨x.coordinate, x.subsidyIn s, classify s (x.subsidyIn s) x.coordinate⟩

/-- The submission is a place: no field is negative, and the position in the subsidy that counts is
below that subsidy, which is positive. -/
def IsPlace (s : Schedule) (x : Submission) : Prop :=
  (∀ f, 0 ≤ x.coordinate.get f) ∧ 0 < x.subsidyIn s ∧ x.coordinate.subsidyPosition < x.subsidyIn s

/-- If the epoch is not negative, a submission is validated against the subsidy that counts. -/
theorem derive_of_epoch_nonneg {x : Submission} (h : 0 ≤ x.coordinate.epoch) (s : Schedule) :
    derive s x.coordinate x.subsidy
      = match x.coordinate.validate (x.subsidyIn s) with
        | .ok () => .ok (x.derivation s)
        | .error raised => .error (raised.map .coordinate) := by
  have heffective : effectiveSubsidy s x.coordinate x.subsidy = .ok (x.subsidyIn s) := by
    obtain ⟨c, subsidy⟩ := x
    cases subsidy with
    | none => simp [effectiveSubsidy, Schedule.subsidy, if_pos h, subsidyIn]
    | some n => rfl
  simp only [derive, heffective]
  rfl

theorem derive_of_isPlace {s : Schedule} {x : Submission} (h : x.IsPlace s) :
    derive s x.coordinate x.subsidy = .ok (x.derivation s) := by
  rw [derive_of_epoch_nonneg (h.1 .epoch), Coordinate.validate_eq_ok_iff.mpr h]

/-- Where the position keeps to the limit, every error has its message. -/
theorem derive_ne_unwritable {x : Submission} (h : WithinLimit x.coordinate.subsidyPosition)
    (s : Schedule) : derive s x.coordinate x.subsidy ≠ .error .unwritable := by
  intro hderive
  unfold derive at hderive
  split at hderive
  case h_1 => cases hderive
  case h_2 n _ =>
    split at hderive
    case h_1 => cases hderive
    case h_2 raised hvalidate =>
      cases raised with
      | stated e => cases hderive
      | unwritable => exact Coordinate.validate_ne_unwritable h n hvalidate

/-- What is no place is rejected with the error of the validation. -/
theorem exists_derive_of_not_isPlace {s : Schedule} {x : Submission} (h : ¬ x.IsPlace s)
    (hepoch : 0 ≤ x.coordinate.epoch) (hlimit : WithinLimit x.coordinate.subsidyPosition) :
    ∃ e, x.coordinate.validate (x.subsidyIn s) = .error (.stated e)
      ∧ derive s x.coordinate x.subsidy = .error (.stated (.coordinate e)) := by
  rw [derive_of_epoch_nonneg hepoch]
  cases hvalidate : x.coordinate.validate (x.subsidyIn s) with
  | ok u => exact absurd (Coordinate.validate_eq_ok_iff.mp hvalidate) h
  | error raised =>
      cases raised with
      | stated e => exact ⟨e, rfl, rfl⟩
      | unwritable => exact absurd hvalidate (Coordinate.validate_ne_unwritable hlimit _)

/-- What is derived is no negative epoch: the validation has looked at it. -/
theorem epoch_nonneg_of_derive {s : Schedule} {x : Submission} {d : Derivation}
    (h : derive s x.coordinate x.subsidy = .ok d) : 0 ≤ x.coordinate.epoch := by
  unfold derive at h
  split at h
  case h_1 => cases h
  case h_2 =>
    split at h
    case h_1 hvalidate => exact (Coordinate.validate_eq_ok_iff.mp hvalidate).1 .epoch
    case h_2 => cases h

/-- Places are derived, and nothing else. -/
theorem derive_eq_ok_iff {s : Schedule} {x : Submission} {d : Derivation} :
    derive s x.coordinate x.subsidy = .ok d ↔ x.IsPlace s ∧ d = x.derivation s := by
  constructor
  · intro h
    rw [derive_of_epoch_nonneg (epoch_nonneg_of_derive h)] at h
    split at h
    case h_1 hvalidate =>
      exact ⟨Coordinate.validate_eq_ok_iff.mp hvalidate, (Except.ok.inj h).symm⟩
    case h_2 => cases h
  · rintro ⟨hplace, rfl⟩
    exact derive_of_isPlace hplace

/-! ## Integers within the limit -/

/-- The integers keep to the limit of numerals. -/
def KeepsToLimit (x : Submission) : Prop :=
  (∀ f, WithinLimit (x.coordinate.get f)) ∧ ∀ n ∈ x.subsidy, WithinLimit n

/-- The subsidy that counts keeps to the limit: no subsidy of a schedule is above the first one. -/
theorem withinLimit_subsidyIn {s : Schedule} (hs : ∀ k, WithinLimit (s.parameters.get k))
    {x : Submission} (h : x.KeepsToLimit) : WithinLimit (x.subsidyIn s) := by
  rw [subsidyIn]
  cases hsubsidy : x.subsidy with
  | none => exact Schedule.withinLimit_subsidyOf hs _
  | some n => exact h.2 n hsubsidy

theorem keepsToLimit_derivation {s : Schedule} (hs : ∀ k, WithinLimit (s.parameters.get k))
    {x : Submission} (h : x.KeepsToLimit) : (x.derivation s).KeepsToLimit :=
  ⟨h.1, withinLimit_subsidyIn hs h⟩

/-! ## The subsidy of the epoch -/

end Submission

end SatRarity
