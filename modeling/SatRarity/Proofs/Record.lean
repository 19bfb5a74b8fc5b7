import Mathlib.Data.List.Nodup
import SatRarity.Json.Finite

set_option autoImplicit false

/-! # Fields of records

What a record says under a key does not depend on the order of its fields, as long as no key is
repeated, nor on fields with other keys; and if all of a record is finite, so is what it says under
any key.
-/

namespace SatRarity.Json

open Text

variable {fields others : List (LooseText × Json)} {key : LooseText} {v : Json}

/-! ## Lookups -/

theorem mem_of_lookup_eq_some (h : fields.lookup key = some v) : (key, v) ∈ fields := by
  obtain ⟨before, after, rfl, -⟩ := List.lookup_eq_some_iff.mp h
  exact List.mem_append_right _ List.mem_cons_self

/-- A field whose key has no other value is found. -/
theorem lookup_eq_some_of_mem (hmem : (key, v) ∈ fields)
    (hunique : ∀ w, (key, w) ∈ fields → w = v) : fields.lookup key = some v := by
  cases hlookup : fields.lookup key with
  | some w => rw [hunique w (mem_of_lookup_eq_some hlookup)]
  | none =>
      have hne := List.lookup_eq_none_iff.mp hlookup _ hmem
      simp at hne

/-- The order of fields makes no difference, if no key is repeated. -/
theorem lookup_perm (hperm : fields.Perm others) (hkeys : (fields.map Prod.fst).Nodup) :
    fields.lookup key = others.lookup key := by
  cases hlookup : fields.lookup key with
  | none =>
      symm
      rw [List.lookup_eq_none_iff] at hlookup ⊢
      exact fun field hfield => hlookup field (hperm.mem_iff.mpr hfield)
  | some v =>
      have hmem := mem_of_lookup_eq_some hlookup
      refine (lookup_eq_some_of_mem (hperm.mem_iff.mp hmem) fun w hw => ?_).symm
      have hsame : (key, w) = (key, v) :=
        List.inj_on_of_nodup_map hkeys (hperm.mem_iff.mpr hw) hmem rfl
      exact congrArg Prod.snd hsame

/-- Fields with other keys make no difference. -/
theorem lookup_append_of_ne (h : ∀ field ∈ others, field.1 ≠ key) :
    (fields ++ others).lookup key = fields.lookup key := by
  have hnone : others.lookup key = none :=
    List.lookup_eq_none_iff.mpr fun field hfield => by simpa using (h field hfield).symm
  rw [List.lookup_append, hnone, Option.or_none]

/-! ## Finite values -/

theorem areFiniteFields_eq_all (fields : List (LooseText × Json)) :
    areFiniteFields fields = fields.all fun field => field.2.isFinite := by
  induction fields with
  | nil => rfl
  | cons field fields ih => rw [areFiniteFields, ih, List.all_cons]

theorem isFinite_of_mem (h : (object fields).isFinite = true) {field : LooseText × Json}
    (hfield : field ∈ fields) : field.2.isFinite = true := by
  rw [isFinite, areFiniteFields_eq_all, List.all_eq_true] at h
  exact h field hfield

/-- What a finite record says under a key is finite. -/
theorem isFinite_of_get? {record : Json} (h : record.isFinite = true) {name : String}
    (hget : record.get? name = some v) : v.isFinite = true := by
  cases record with
  | object fields => exact isFinite_of_mem h (mem_of_lookup_eq_some hget)
  | _ => cases hget

end SatRarity.Json
