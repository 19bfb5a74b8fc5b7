import SatRarity.Proofs.Fallible
import SatRarity.Validation.Lenient

set_option autoImplicit false

/-! # Issues of fields

A field is read on its own: it is wrong if it is missing or cannot be read, and what is said of it
then depends on nothing else, `readField_eq_error_iff`. When all fields of a record are looked at,
there is one issue for each of those that are wrong, in the order in which they are looked at,
`lists_filterMap`.
-/

namespace SatRarity

namespace Issue

/-! ## One field -/

section Field

variable {α : Type} {place : List String} {v : Json} {name : String} {read : Json → Except Kind α}
  {i : Issue}

/-- What is wrong with a field that is to be read: it is missing, or it is there and not read. -/
inductive IsRaised (place : List String) (v : Json) (name : String)
    (read : Json → Except Kind α) : Issue → Prop
  | missing (h : v.get? name = none) : IsRaised place v name read ⟨.missing, place ++ [name], v⟩
  | unread {value : Json} {kind : Kind} (h : v.get? name = some value)
    (hread : read value = .error kind) : IsRaised place v name read ⟨kind, place ++ [name], value⟩

theorem readField_eq_ok_iff {a : α} :
    readField place v name read = .ok a
      ↔ ∃ value, v.get? name = some value ∧ read value = .ok a := by
  rw [readField]
  split
  case h_1 hnone => simp [hnone]
  case h_2 value hvalue => cases hread : read value <;> simp [hvalue, hread]

theorem readField_eq_error_iff :
    readField place v name read = .error i ↔ IsRaised place v name read i := by
  constructor
  · intro h
    rw [readField] at h
    split at h
    case h_1 hnone =>
      obtain rfl := Except.error.inj h
      exact .missing hnone
    case h_2 value hvalue =>
      split at h
      case h_1 => cases h
      case h_2 kind hread =>
        obtain rfl := Except.error.inj h
        exact .unread hvalue hread
  · intro h
    cases h with
    | missing h => simp [readField, h]
    | unread h hread => simp [readField, h, hread]

theorem of?_eq_some_iff {x : Except Issue α} : of? x = some i ↔ x = .error i := by
  cases x <;> simp [of?]

theorem of?_eq_none_iff {x : Except Issue α} : of? x = none ↔ ∃ a, x = .ok a := by
  cases x <;> simp [of?]

end Field

/-! ## Several fields -/

section Several

variable {κ : Type}

/-- The issues are those of the fields that offend, one for each of them and in their order. -/
def Lists (fields : List κ) (offends : κ → Prop) (has : κ → Issue → Prop) (found : List Issue) :
    Prop :=
  ∃ offending, offending.Sublist fields ∧ (∀ k ∈ fields, k ∈ offending ↔ offends k)
    ∧ List.Forall₂ has offending found

/-- The results of the checks that find something stand beside the fields for which they do. -/
theorem forall₂_filterMap (check : κ → Option Issue) (fields : List κ) :
    List.Forall₂ (fun k i => check k = some i) (fields.filter fun k => (check k).isSome)
      (fields.filterMap check) := by
  induction fields with
  | nil => exact .nil
  | cons k fields ih =>
      cases hk : check k with
      | none =>
          rw [List.filter_cons_of_neg (by simp [hk]), List.filterMap_cons_none hk]
          exact ih
      | some i =>
          rw [List.filter_cons_of_pos (by simp [hk]), List.filterMap_cons_some hk]
          exact .cons hk ih

theorem lists_filterMap {fields : List κ} {offends : κ → Prop} {has : κ → Issue → Prop}
    {check : κ → Option Issue} (hcheck : ∀ k i, check k = some i ↔ has k i)
    (hoffends : ∀ k, offends k ↔ ∃ i, has k i) :
    Lists fields offends has (fields.filterMap check) := by
  refine ⟨fields.filter fun k => (check k).isSome, List.filter_sublist, fun k hk => ?_, ?_⟩
  · rw [List.mem_filter, Option.isSome_iff_exists, hoffends]
    simp only [hk, hcheck, true_and]
  · exact (forall₂_filterMap check fields).imp fun k i => (hcheck k i).mp

/-- A field that offends has an issue in the list. -/
theorem Lists.exists_mem {fields : List κ} {offends : κ → Prop} {has : κ → Issue → Prop}
    {found : List Issue} (h : Lists fields offends has found) {k : κ} (hk : k ∈ fields)
    (hoffends : offends k) : ∃ i ∈ found, has k i := by
  obtain ⟨offending, -, hmem, hfound⟩ := h
  have hoffending := (hmem k hk).mpr hoffends
  clear hmem
  induction hfound with
  | nil => cases hoffending
  | cons hfirst _ ih =>
      rcases List.mem_cons.mp hoffending with rfl | hoffending
      · exact ⟨_, List.mem_cons_self, hfirst⟩
      · obtain ⟨i, hi, hhas⟩ := ih hoffending
        exact ⟨i, List.mem_cons_of_mem _ hi, hhas⟩

end Several

end Issue

/-! ## Lenient integers -/

namespace Lenient

variable {v : Json} {n : Int} {kind : Issue.Kind}

theorem natural_eq_ok_iff : natural v = .ok n ↔ integer v = .ok n ∧ 0 ≤ n := by
  rw [natural, bind_eq_ok_iff]
  constructor
  · rintro ⟨m, hm, h⟩
    split at h
    case isTrue => cases h
    case isFalse hneg =>
      obtain rfl := Except.ok.inj h
      exact ⟨hm, Int.not_lt.mp hneg⟩
  · rintro ⟨hn, hnonneg⟩
    exact ⟨n, hn, if_neg (Int.not_lt.mpr hnonneg)⟩

theorem natural_eq_error_iff :
    natural v = .error kind
      ↔ integer v = .error kind ∨ kind = .negative ∧ ∃ n < 0, integer v = .ok n := by
  rw [natural, bind_eq_error_iff]
  refine or_congr_right ⟨?_, ?_⟩
  · rintro ⟨n, hn, h⟩
    split at h
    case isTrue hneg => exact ⟨(Except.error.inj h).symm, n, hneg, hn⟩
    case isFalse => cases h
  · rintro ⟨rfl, n, hneg, hn⟩
    exact ⟨n, hn, if_pos hneg⟩

theorem optionalInteger_of_ne_null (h : v ≠ .null) :
    optionalInteger v = (integer v).map some := by
  unfold optionalInteger
  split
  · exact absurd rfl h
  · rfl

theorem optionalInteger_eq_ok_iff {n? : Option Int} :
    optionalInteger v = .ok n?
      ↔ v = .null ∧ n? = none ∨ v ≠ .null ∧ ∃ n, integer v = .ok n ∧ n? = some n := by
  by_cases hnull : v = .null
  · subst hnull
    simp [optionalInteger, eq_comm]
  · rw [optionalInteger_of_ne_null hnull, map_eq_ok_iff]
    simp [hnull, eq_comm]

theorem optionalInteger_eq_error_iff :
    optionalInteger v = .error kind ↔ v ≠ .null ∧ integer v = .error kind := by
  by_cases hnull : v = .null
  · subst hnull
    simp [optionalInteger]
  · rw [optionalInteger_of_ne_null hnull]
    cases integer v <;> simp [Except.map, hnull]

/-- What is no lenient integer is refused for some reason. -/
theorem exists_eq_error_iff {α : Type} {x : Except Issue.Kind α} :
    (∃ kind, x = .error kind) ↔ ∀ a, x ≠ .ok a := by
  cases x <;> simp

end Lenient

end SatRarity
