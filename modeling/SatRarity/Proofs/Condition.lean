import SatRarity.Proofs.Acceptance
import SatRarity.Proofs.Rules

set_option autoImplicit false

/-! # The conditions on a place

A coordinate is a place in a block if six conditions hold: no field is negative, the subsidy is
positive, and the position in the subsidy is below it. The validation looks at them in this order.
The first one that is broken is the error, whatever else is broken, `validate_eq_stated_iff`, and
the message says which one it was, `Error.message_injective`.

The message about the last condition holds integers. Where the position has more digits than a
decimal may have, the message cannot be written, and the validation does not raise its error there,
`validate_eq_unwritable_iff`.

The classification checks nothing and relies on what was validated: at a place, the last sat of the
block is black unless it is the only one. All of it together is `validated_by_conditions`.
-/

namespace SatRarity.Coordinate

open Text

/-! ## Conditions -/

/-- What a coordinate has to satisfy to be a place under a subsidy. -/
inductive Condition
  | notNegative (f : Field)
  | subsidyPositive
  | inside
  deriving DecidableEq

namespace Condition

/-- The conditions in the order in which they are looked at. -/
def all : List Condition :=
  [notNegative .epoch, notNegative .epochPosition, notNegative .periodPosition,
    notNegative .subsidyPosition, subsidyPositive, inside]

def Holds (c : Coordinate) (u : Int) : Condition → Prop
  | notNegative f => 0 ≤ c.get f
  | subsidyPositive => 0 < u
  | inside => c.subsidyPosition < u

instance (c : Coordinate) (u : Int) (k : Condition) : Decidable (k.Holds c u) :=
  match k with
  | notNegative f => inferInstanceAs (Decidable (0 ≤ c.get f))
  | subsidyPositive => inferInstanceAs (Decidable (0 < u))
  | inside => inferInstanceAs (Decidable (c.subsidyPosition < u))

/-- The error that reports the condition as broken. -/
def error (c : Coordinate) (u : Int) : Condition → Error
  | notNegative f => .negative f
  | subsidyPositive => .subsidyNotPositive
  | inside => .outside c.subsidyPosition u

/-- The condition is broken, and those before it hold. -/
def IsFirstBroken (c : Coordinate) (u : Int) (k : Condition) : Prop :=
  ∃ before after, all = before ++ k :: after ∧ (∀ j ∈ before, j.Holds c u) ∧ ¬ k.Holds c u

end Condition

open Condition

variable {c : Coordinate} {u : Int}

/-! ## The first broken condition -/

/-- The first condition that is broken. -/
def firstBroken? (c : Coordinate) (u : Int) : Option Condition :=
  Condition.all.find? fun k => ¬ k.Holds c u

theorem isFirstBroken_iff {k : Condition} : k.IsFirstBroken c u ↔ firstBroken? c u = some k := by
  simp only [IsFirstBroken, firstBroken?, List.find?_eq_some_iff_append, decide_eq_true_eq,
    Bool.not_eq_true', decide_eq_false_iff_not, Classical.not_not]
  constructor
  · rintro ⟨before, after, hall, hbefore, hbroken⟩
    exact ⟨hbroken, before, after, hall, hbefore⟩
  · rintro ⟨hbroken, before, after, hall, hbefore⟩
    exact ⟨before, after, hall, hbefore, hbroken⟩

/-- Among the fields the search is for a negative one, and only if there is none it goes on. -/
theorem firstBroken?_eq (c : Coordinate) (u : Int) :
    firstBroken? c u
      = (c.firstNegative?.map notNegative).or
          ([subsidyPositive, inside].find? fun k => ¬ k.Holds c u) := by
  have hsplit : Condition.all = Field.all.map notNegative ++ [subsidyPositive, inside] := rfl
  have hfield : ∀ f, decide (¬ (notNegative f).Holds c u) = decide (c.get f < 0) := by
    intro f
    exact decide_eq_decide.mpr Int.not_le
  rw [firstBroken?, hsplit, List.find?_append, List.find?_map]
  simp only [Function.comp_def, hfield, firstNegative?]

theorem firstBroken?_of_negative {f : Field} (h : c.firstNegative? = some f) (u : Int) :
    firstBroken? c u = some (.notNegative f) := by
  rw [firstBroken?_eq, h]
  rfl

/-- Without a negative field the subsidy is looked at, and then the position in it. -/
theorem firstBroken?_of_nonneg (h : ∀ f, 0 ≤ c.get f) (u : Int) :
    firstBroken? c u
      = if u ≤ 0 then some .subsidyPositive
        else if u ≤ c.subsidyPosition then some .inside
        else none := by
  rw [firstBroken?_eq, firstNegative?_eq_none_iff.mpr h]
  by_cases hu : u ≤ 0 <;> by_cases hposition : u ≤ c.subsidyPosition <;>
    simp [Holds, hu, hposition]

/-- The validation reports the first broken condition. -/
theorem validate_eq (c : Coordinate) (u : Int) :
    c.validate u
      = match firstBroken? c u with
        | some k => .error (k.error c u).raised
        | none => .ok () := by
  cases hfirst : c.firstNegative? with
  | some f =>
      rw [validate_negative hfirst, firstBroken?_of_negative hfirst]
      rfl
  | none =>
      have hnonneg := firstNegative?_eq_none_iff.mp hfirst
      rw [validate_nonneg hnonneg, firstBroken?_of_nonneg hnonneg]
      by_cases hu : u ≤ 0
      · rw [if_pos hu, if_pos hu]
        rfl
      · rw [if_neg hu, if_neg hu]
        by_cases hposition : u ≤ c.subsidyPosition
        · rw [if_pos hposition, if_pos hposition]
          rfl
        · rw [if_neg hposition, if_neg hposition]

/-- The last condition is the first broken one where the others hold. -/
theorem isFirstBroken_inside_iff :
    inside.IsFirstBroken c u ↔ (∀ f, 0 ≤ c.get f) ∧ 0 < u ∧ u ≤ c.subsidyPosition := by
  rw [isFirstBroken_iff]
  cases hfirst : c.firstNegative? with
  | some f =>
      rw [firstBroken?_of_negative hfirst]
      refine iff_of_false (by simp) ?_
      rintro ⟨hnonneg, -⟩
      exact absurd (negative_of_firstNegative? hfirst) (Int.not_lt.mpr (hnonneg f))
  | none =>
      have hnonneg := firstNegative?_eq_none_iff.mp hfirst
      rw [firstBroken?_of_nonneg hnonneg, and_iff_right hnonneg]
      by_cases hu : u ≤ 0
      · simp [hu]
      · by_cases hposition : u ≤ c.subsidyPosition
        · simp [hu, hposition, Int.not_le.mp hu]
        · simp [hu, hposition]

/-- The message about the first broken condition can be written, unless it is about a position
beyond the limit. -/
theorem isWritable_error_iff {k : Condition} (h : k.IsFirstBroken c u) :
    (k.error c u).IsWritable ↔ (k = .inside → WithinLimit c.subsidyPosition) := by
  cases k with
  | notNegative f => exact iff_of_true trivial nofun
  | subsidyPositive => exact iff_of_true trivial nofun
  | inside =>
      obtain ⟨-, hpos, hle⟩ := isFirstBroken_inside_iff.mp h
      simpa [Condition.error] using Error.isWritable_outside_iff hpos hle

/-- The errors of the validation report the first broken condition. -/
theorem validate_eq_stated_iff {e : Error} :
    c.validate u = .error (.stated e)
      ↔ ∃ k : Condition, k.IsFirstBroken c u ∧ k.error c u = e
          ∧ (k = .inside → WithinLimit c.subsidyPosition) := by
  rw [validate_eq]
  cases hfirst : firstBroken? c u with
  | none => simp [isFirstBroken_iff, hfirst]
  | some k =>
      have hbroken : k.IsFirstBroken c u := isFirstBroken_iff.mpr hfirst
      constructor
      · intro h
        obtain ⟨he, hwritable⟩ := Error.raised_eq_stated_iff.mp (Except.error.inj h)
        exact ⟨k, hbroken, he, (isWritable_error_iff hbroken).mp hwritable⟩
      · rintro ⟨k', hbroken', rfl, hlimit⟩
        obtain rfl : k = k' := Option.some.inj (hfirst.symm.trans (isFirstBroken_iff.mp hbroken'))
        have hwritable := (isWritable_error_iff hbroken).mpr hlimit
        exact congrArg Except.error (Error.raised_eq_stated_iff.mpr ⟨rfl, hwritable⟩)

/-- The error is not raised where the position that it is about has no decimal. -/
theorem validate_eq_unwritable_iff :
    c.validate u = .error .unwritable
      ↔ inside.IsFirstBroken c u ∧ ¬ WithinLimit c.subsidyPosition := by
  rw [validate_eq]
  cases hfirst : firstBroken? c u with
  | none => simp [isFirstBroken_iff, hfirst]
  | some k =>
      have hbroken : k.IsFirstBroken c u := isFirstBroken_iff.mpr hfirst
      rw [Except.error.injEq, Error.raised_eq_unwritable_iff, isWritable_error_iff hbroken,
        isFirstBroken_iff, hfirst]
      simp

/-- Four conditions are broken, and the second one of all is the first of them. -/
example : validate ⟨0, -1, -7, 5⟩ (-3) = .error (.stated (.negative .epochPosition)) := rfl

/-! ## Messages -/

theorem Error.toList_message_outside (p u : Int) :
    (outside p u).message.toList
      = "subsidy_position ".toList ++ ((toString p).toList
        ++ ' ' :: ("is outside a subsidy of ".toList ++ ((toString u).toList ++ ".".toList))) := by
  have hspace : " is outside a subsidy of ".toList = ' ' :: "is outside a subsidy of ".toList := by
    decide
  unfold message
  rw [String.toList_append, String.toList_append, String.toList_append, String.toList_append,
    List.append_assoc, List.append_assoc, List.append_assoc, hspace, List.cons_append]

/-- The errors with numbers in their messages are those with the letter `f` in them. -/
theorem Error.mem_message_iff {e : Error} : 'f' ∈ e.message.toList ↔ ∃ p u, e = outside p u := by
  cases e with
  | negative f =>
      have hnot : 'f' ∉ (negative f).message.toList := by cases f <;> decide
      simp [hnot]
  | subsidyNotPositive =>
      have hnot : 'f' ∉ subsidyNotPositive.message.toList := by decide
      simp [hnot]
  | outside p u =>
      have hmem : 'f' ∈ "is outside a subsidy of ".toList := by decide
      refine iff_of_true ?_ ⟨p, u, rfl⟩
      rw [toList_message_outside]
      exact List.mem_append_right _ (List.mem_append_right _
        (List.mem_cons_of_mem _ (List.mem_append_left _ hmem)))

theorem Error.outside_of_message_eq {e : Error} {p u : Int}
    (h : e.message = (outside p u).message) : e = outside p u := by
  -- it is an error of this kind, and the numbers can be read off
  have hmem : 'f' ∈ e.message.toList := by
    rw [h]
    exact mem_message_iff.mpr ⟨p, u, rfl⟩
  obtain ⟨p', u', rfl⟩ := mem_message_iff.mp hmem
  have hlist := congrArg String.toList h
  rw [toList_message_outside, toList_message_outside] at hlist
  obtain ⟨rfl, hrest⟩ := toString_append_space_inj (List.append_cancel_left hlist)
  have hdecimals := List.append_cancel_right (List.append_cancel_left hrest)
  rw [toString_injective (String.toList_inj.mp hdecimals)]

/-- An error is told by its message, with the numbers in it. -/
theorem Error.message_injective {e e' : Error} (h : e.message = e'.message) : e = e' := by
  cases e' with
  | outside p u => exact outside_of_message_eq h
  | negative f' =>
      cases e with
      | outside p u => exact (outside_of_message_eq h.symm).symm
      | negative f =>
          have hname : f.name = f'.name := (String.append_left_inj _).mp h
          rw [Field.name_injective hname]
      | subsidyNotPositive => cases f' <;> exact absurd h (by decide)
  | subsidyNotPositive =>
      cases e with
      | outside p u => exact (outside_of_message_eq h.symm).symm
      | negative f => cases f <;> exact absurd h (by decide)
      | subsidyNotPositive => rfl

/-! ## Places -/

/-- A place stays one in a greater subsidy. -/
theorem validate_of_le {u' : Int} (h : c.validate u = .ok ()) (hu : u ≤ u') :
    c.validate u' = .ok () := by
  obtain ⟨hnonneg, hpos, hlt⟩ := validate_eq_ok_iff.mp h
  exact validate_eq_ok_iff.mpr ⟨hnonneg, Int.lt_of_lt_of_le hpos hu, Int.lt_of_lt_of_le hlt hu⟩

/-- A block that has a sat at some position has one at every smaller position. -/
theorem validate_sat {i : Nat} (h : c.validate u = .ok ()) (hi : i ≤ c.subsidyPosition) :
    (c.sat i).validate u = .ok () := by
  obtain ⟨hnonneg, hpos, hlt⟩ := validate_eq_ok_iff.mp h
  obtain ⟨hepoch, hepochPosition, hperiodPosition, -⟩ := Field.forall_iff.mp hnonneg
  refine validate_eq_ok_iff.mpr ⟨Field.forall_iff.mpr ?_, hpos, ?_⟩
  · exact ⟨hepoch, hepochPosition, hperiodPosition, Int.natCast_nonneg i⟩
  · calc (i : Int) ≤ c.subsidyPosition := hi
      _ < u := hlt

/-- At a place the last sat is black, unless it is the only one of its block. -/
theorem classify_mem_black_iff (h : c.validate u = .ok ()) (s : Schedule) :
    classify s u c ∈ Tier.black ↔ c.subsidyPosition = u - 1 ∧ 2 ≤ u := by
  have hnonneg : 0 ≤ c.subsidyPosition := (validate_eq_ok_iff.mp h).1 .subsidyPosition
  obtain ⟨-, hblack, -⟩ := kind_classify s u c
  rw [hblack]
  omega

/-- The validation accepts the places in a block and nothing else, and otherwise reports the first
condition that is broken, with a message that no other error has; only a position beyond the limit
of numerals, outside a positive subsidy, goes without its error. At a place the subsidy and the
position in it tell whether the tier is black and whether it ranks a first sat, and the highest tier
of a first sat is found only where all fields are zero. A place stays one at a smaller position and
in a greater subsidy. -/
theorem validated_by_conditions (c : Coordinate) (u : Int) :
    (c.validate u = .ok () ↔ (∀ f, 0 ≤ c.get f) ∧ 0 < u ∧ c.subsidyPosition < u)
      ∧ (∀ e, c.validate u = .error (.stated e)
          ↔ ∃ k : Condition, k.IsFirstBroken c u ∧ k.error c u = e
            ∧ (k = .inside → WithinLimit c.subsidyPosition))
      ∧ (c.validate u = .error .unwritable
          ↔ inside.IsFirstBroken c u ∧ ¬ WithinLimit c.subsidyPosition)
      ∧ (∀ e e' : Error, e.message = e'.message → e = e')
      ∧ (c.validate u = .ok () →
          (∀ s : Schedule,
            (classify s u c ∈ Tier.black ↔ c.subsidyPosition = u - 1 ∧ 2 ≤ u)
            ∧ ((classify s u c).IsOpening ↔ c.subsidyPosition = 0)
            ∧ (classify s u c = .mythic ↔ ∀ f, c.get f = 0))
          ∧ (∀ i : Nat, i ≤ c.subsidyPosition → (c.sat i).validate u = .ok ())
          ∧ ∀ u', u ≤ u' → c.validate u' = .ok ()) := by
  refine ⟨validate_eq_ok_iff, fun e => validate_eq_stated_iff, validate_eq_unwritable_iff,
    fun e e' => Error.message_injective,
    fun hplace => ⟨fun s => ?_, fun i => validate_sat hplace, fun u' => validate_of_le hplace⟩⟩
  obtain ⟨hopening, -, -⟩ := kind_classify s u c
  exact ⟨classify_mem_black_iff hplace s, hopening, classify_eq_mythic_iff s u c⟩

/-- The last sat of the second era, the sat before it, and the same coordinate in a greater
subsidy. -/
theorem validated_by_conditions_era_end :
    Coordinate.validate ⟨1, 5, 3, 1⟩ 2 = .ok ()
      ∧ classify .short 2 ⟨1, 5, 3, 1⟩ ∈ Tier.black
      ∧ Coordinate.validate ⟨1, 5, 3, 0⟩ 2 = .ok ()
      ∧ Coordinate.validate ⟨1, 5, 3, 1⟩ 7 = .ok () := by
  have hplace : Coordinate.validate ⟨1, 5, 3, 1⟩ 2 = .ok () := rfl
  obtain ⟨-, -, -, -, htells⟩ := validated_by_conditions ⟨1, 5, 3, 1⟩ 2
  obtain ⟨hkinds, hsmaller, hgreater⟩ := htells hplace
  obtain ⟨hblack, -, -⟩ := hkinds .short
  exact ⟨hplace, hblack.mpr ⟨rfl, by decide⟩, hsmaller 0 (by decide), hgreater 7 (by decide)⟩

/-- A position of 4,301 digits is outside a subsidy of one and breaks nothing else, but the error
that says so is not raised. -/
theorem not_stated_long_position :
    inside.IsFirstBroken ⟨0, 0, 0, 10 ^ digitLimit⟩ 1
      ∧ ∀ e, validate ⟨0, 0, 0, 10 ^ digitLimit⟩ 1 ≠ .error (.stated e) := by
  have hpos : (0 : Int) < 10 ^ digitLimit := Int.pow_pos (by decide)
  have hbroken : inside.IsFirstBroken ⟨0, 0, 0, 10 ^ digitLimit⟩ 1 :=
    isFirstBroken_inside_iff.mpr
      ⟨Field.forall_iff.mpr ⟨Int.le_refl 0, Int.le_refl 0, Int.le_refl 0, Int.le_of_lt hpos⟩,
        Int.one_pos, hpos⟩
  have hmagnitude : ∀ e : Nat, ((10 : Int) ^ e).natAbs = 10 ^ e := fun e => Int.natAbs_pow 10 e
  have hlimit : ¬ WithinLimit (10 ^ digitLimit) := by
    simp only [withinLimit_iff, hmagnitude, Nat.lt_irrefl, not_false_eq_true]
  have hunwritable := validate_eq_unwritable_iff.mpr ⟨hbroken, hlimit⟩
  refine ⟨hbroken, fun e h => ?_⟩
  cases hunwritable.symm.trans h

end SatRarity.Coordinate
