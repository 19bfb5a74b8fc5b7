import SatRarity.Proofs.FieldIssues
import SatRarity.Proofs.History
import SatRarity.Proofs.Posting

set_option autoImplicit false

/-! # What is read keeps to the limit of numerals

Every reader counts the digits of a numeral, so that an integer that was read has no more digits
than a numeral may have, and can be written and read again. Of the numerals of options and variables
this is `Numeral.withinLimit_of_read`. Here it is shown of every integer in a JSON value,
`Json.keepsToLimit_of_readPoints`, and of whatever else is taken for an integer; hence of a whole
submission, `keepsToLimit_of_readSubmission`.
-/

namespace SatRarity

open Text

/-! ## Lenient integers -/

namespace Lenient

theorem withinLimit_of_magnitude? {t : List Char} {m : Nat} (negative : Bool)
    (h : magnitude? t = some m) : WithinLimit (signed negative m) := by
  simp only [magnitude?, Option.bind_eq_bind, Option.bind_eq_some_iff] at h
  obtain ⟨ds, hrun, hds⟩ := h
  split at hds
  · cases hds
  · obtain rfl := Option.some.inj hds
    exact withinLimit_signed negative (lt_of_digitRun? (fun _ _ => asciiDigitValue?_lt) hrun)
      (by omega)

theorem withinLimit_of_wholeNumber? {t : List Char} {n : Int} (h : wholeNumber? t = some n) :
    WithinLimit n := by
  have hmap : ∀ {digits : List Char} {negative : Bool},
      (magnitude? digits).map (signed negative) = some n → WithinLimit n := by
    intro digits negative hdigits
    obtain ⟨m, hm, rfl⟩ := Option.map_eq_some_iff.mp hdigits
    exact withinLimit_of_magnitude? negative hm
  unfold wholeNumber? at h
  dsimp only at h
  split at h
  · cases h
  · split at h
    · cases h
    · exact hmap h
  · exact hmap h

theorem withinLimit_of_integerOfText {text : String} {n : Int}
    (h : integerOfText text = .ok n) : WithinLimit n := by
  unfold integerOfText at h
  dsimp only at h
  split at h
  · cases h
  · split at h
    · split at h
      case h_1 n' hn =>
        obtain rfl := Except.ok.inj h
        exact withinLimit_of_wholeNumber? hn
      case h_2 => cases h
    · cases h

/-- An integer that fits into a machine word has few digits. -/
theorem withinLimit_of_integerOfBinary {x : Binary64} {n : Int}
    (h : integerOfBinary x = .ok n) : WithinLimit n := by
  unfold integerOfBinary at h
  split at h
  · cases h
  · split at h
    · cases h
    · split at h
      case isTrue hlt =>
        obtain rfl := Except.ok.inj h
        have hword : wordBound < 10 ^ 19 := by decide
        exact withinLimit_of_lt (by decide) (Nat.lt_trans hlt hword)
      case isFalse => cases h

/-- What is taken for an integer keeps to the limit, if it does where it is one. -/
theorem withinLimit_of_integer {v : Json} (hv : ∀ m, v = .int m → WithinLimit m) {n : Int}
    (h : integer v = .ok n) : WithinLimit n := by
  cases v with
  | int m =>
      obtain rfl := Except.ok.inj h
      exact hv m rfl
  | bool b =>
      obtain rfl := Except.ok.inj h
      cases b <;> decide
  | decimal negative mantissa exponent => exact withinLimit_of_integerOfBinary h
  | text s =>
      rw [integer] at h
      split at h
      · exact withinLimit_of_integerOfText h
      · cases h
  | _ => cases h

end Lenient

/-! ## Integers in JSON values -/

namespace Json

theorem lt_of_mem_splitDigits {t : Source} : ∀ d ∈ (splitDigits t).1, d < 10 := by
  fun_induction splitDigits t with
  | case1 c rest d hd ih => exact List.forall_mem_cons.mpr ⟨asciiDigitValue?_lt hd, ih⟩
  | case2 => simp
  | case3 => simp

theorem lt_of_mem_splitWhole {t : Source} : ∀ d ∈ (splitWhole t).1, d < 10 := by
  unfold splitWhole
  split
  · simp
  · exact lt_of_mem_splitDigits

theorem keepsToLimit_of_readMagnitude {negative : Bool} {t rest : Source} {v : Json}
    (h : readMagnitude negative t = .ok (v, rest)) : v.keepsToLimit = true := by
  unfold readMagnitude at h
  dsimp only at h
  split at h
  · cases h
  · split at h
    · obtain ⟨rfl, -⟩ := Prod.mk.inj (Except.ok.inj h)
      rfl
    · split at h
      · obtain ⟨rfl, -⟩ := Prod.mk.inj (Except.ok.inj h)
        rfl
      · split at h
        · cases h
        · obtain ⟨rfl, -⟩ := Prod.mk.inj (Except.ok.inj h)
          exact decide_eq_true (withinLimit_signed negative lt_of_mem_splitWhole (by omega))

theorem keepsToLimit_of_readNumber {t rest : Source} {v : Json}
    (h : readNumber t = .ok (v, rest)) : v.keepsToLimit = true := by
  unfold readNumber at h
  split at h
  · exact keepsToLimit_of_readMagnitude h
  · exact keepsToLimit_of_readMagnitude h

theorem keepsToLimit_of_readWord? {t rest : Source} {v : Json}
    (h : readWord? t = some (v, rest)) : v.keepsToLimit = true := by
  have hwords : ∀ word ∈ words, word.2.keepsToLimit = true := by
    simp [words, keepsToLimit]
  obtain ⟨word, hmem, hafter⟩ := List.exists_of_findSome?_eq_some h
  obtain ⟨rest', -, heq⟩ := Option.map_eq_some_iff.mp hafter
  obtain ⟨rfl, -⟩ := Prod.mk.inj heq
  exact hwords word hmem

/-- Merging adds no value. -/
theorem mem_of_mem_mergeFields {fields : List (LooseText × Json)} {v : Json}
    (h : v ∈ (mergeFields fields).map Prod.snd) : v ∈ fields.map Prod.snd := by
  induction fields generalizing v with
  | nil => exact h
  | cons field rest ih =>
      obtain ⟨key, value⟩ := field
      rw [mergeFields, List.map_cons] at h
      rcases List.mem_cons.mp h with rfl | h
      · cases hlookup : (mergeFields rest).lookup key with
        | none => exact List.mem_cons_self
        | some last =>
            exact List.mem_cons_of_mem _ (ih (List.mem_map_of_mem (mem_of_lookup_eq_some hlookup)))
      · obtain ⟨field, hfield, rfl⟩ := List.mem_map.mp h
        exact List.mem_cons_of_mem _
          (ih (List.mem_map_of_mem (List.mem_filter.mp hfield).1))

theorem keepsToLimit_ofFields {fields : List (LooseText × Json)}
    (h : fieldsKeepToLimit fields = true) : (ofFields fields).keepsToLimit = true := by
  rw [fieldsKeepToLimit_eq_all, List.all_eq_true] at h
  rw [ofFields, keepsToLimit, fieldsKeepToLimit_eq_all, List.all_eq_true]
  intro field hfield
  obtain ⟨field', hfield', hsame⟩ :=
    List.mem_map.mp (mem_of_mem_mergeFields (List.mem_map_of_mem hfield))
  rw [← hsame]
  exact h field' hfield'

/-- What is read with so much fuel keeps to the limit: a value, the items of a list, and the fields
of an object. -/
structure ReadsWithinLimit (fuel : Nat) : Prop where
  value : ∀ {depth : Nat} {t rest : Source} {v : Json},
    readValue fuel depth t = .ok (v, rest) → v.keepsToLimit = true
  items : ∀ {depth : Nat} {t rest : Source} {items : List Json},
    readItems fuel depth t = .ok (items, rest) → itemsKeepToLimit items = true
  fields : ∀ {depth : Nat} {t rest : Source} {fields : List (LooseText × Json)},
    readFields fuel depth t = .ok (fields, rest) → fieldsKeepToLimit fields = true

namespace ReadsWithinLimit

variable {fuel depth : Nat} {t rest : Source}

theorem value_succ (h : ReadsWithinLimit fuel) {v : Json}
    (hread : readValue (fuel + 1) depth t = .ok (v, rest)) : v.keepsToLimit = true := by
  rw [readValue.eq_def] at hread
  dsimp only at hread
  split at hread
  -- texts
  case h_1 =>
    obtain ⟨a, -, heq⟩ := map_eq_ok_iff.mp hread
    obtain ⟨rfl, -⟩ := Prod.mk.inj heq
    rfl
  -- lists
  case h_2 => cases hread
  case h_3 =>
    split at hread
    · obtain ⟨rfl, -⟩ := Prod.mk.inj (Except.ok.inj hread)
      rfl
    · obtain ⟨⟨items, rest'⟩, hitems, heq⟩ := map_eq_ok_iff.mp hread
      obtain ⟨rfl, -⟩ := Prod.mk.inj heq
      exact h.items hitems
  -- objects
  case h_4 => cases hread
  case h_5 =>
    split at hread
    · obtain ⟨rfl, -⟩ := Prod.mk.inj (Except.ok.inj hread)
      rfl
    · obtain ⟨⟨fields, rest'⟩, hfields, heq⟩ := map_eq_ok_iff.mp hread
      obtain ⟨rfl, -⟩ := Prod.mk.inj heq
      exact keepsToLimit_ofFields (h.fields hfields)
  -- words and numbers
  case h_6 =>
    split at hread
    case h_1 result hword =>
      obtain rfl := Except.ok.inj hread
      exact keepsToLimit_of_readWord? hword
    case h_2 => exact keepsToLimit_of_readNumber hread

theorem items_succ (h : ReadsWithinLimit fuel) {items : List Json}
    (hread : readItems (fuel + 1) depth t = .ok (items, rest)) :
    itemsKeepToLimit items = true := by
  rw [readItems.eq_def] at hread
  obtain ⟨⟨item, rest⟩, hitem, hread⟩ := bind_eq_ok_iff.mp hread
  dsimp only at hread
  split at hread
  · -- a comma, and the other items
    obtain ⟨⟨others, rest⟩, hothers, hread⟩ := bind_eq_ok_iff.mp hread
    obtain ⟨rfl, -⟩ := Prod.mk.inj (Except.ok.inj hread)
    exact Bool.and_eq_true_iff.mpr ⟨h.value hitem, h.items hothers⟩
  · obtain ⟨rfl, -⟩ := Prod.mk.inj (Except.ok.inj hread)
    exact Bool.and_eq_true_iff.mpr ⟨h.value hitem, rfl⟩
  · cases hread

theorem fields_succ (h : ReadsWithinLimit fuel) {fields : List (LooseText × Json)}
    (hread : readFields (fuel + 1) depth t = .ok (fields, rest)) :
    fieldsKeepToLimit fields = true := by
  rw [readFields.eq_def] at hread
  dsimp only at hread
  split at hread
  case h_1 =>
    obtain ⟨⟨key, rest⟩, -, hread⟩ := bind_eq_ok_iff.mp hread
    dsimp only at hread
    split at hread
    case h_1 =>
      obtain ⟨⟨value, rest⟩, hvalue, hread⟩ := bind_eq_ok_iff.mp hread
      dsimp only at hread
      split at hread
      · -- a comma, and the other fields
        obtain ⟨⟨others, rest⟩, hothers, hread⟩ := bind_eq_ok_iff.mp hread
        obtain ⟨rfl, -⟩ := Prod.mk.inj (Except.ok.inj hread)
        exact Bool.and_eq_true_iff.mpr ⟨h.value hvalue, h.fields hothers⟩
      · obtain ⟨rfl, -⟩ := Prod.mk.inj (Except.ok.inj hread)
        exact Bool.and_eq_true_iff.mpr ⟨h.value hvalue, rfl⟩
      · cases hread
    case h_2 => cases hread
  case h_2 => cases hread

end ReadsWithinLimit

theorem readsWithinLimit (fuel : Nat) : ReadsWithinLimit fuel := by
  induction fuel with
  | zero => exact ⟨nofun, nofun, nofun⟩
  | succ fuel ih => exact ⟨ih.value_succ, ih.items_succ, ih.fields_succ⟩

/-- Every integer in a value that was read keeps to the limit. -/
theorem keepsToLimit_of_readPoints {depth : Nat} {t : Source} {v : Json}
    (h : readPoints depth t = .ok v) : v.keepsToLimit = true := by
  obtain ⟨⟨v', rest⟩, hvalue, h⟩ := bind_eq_ok_iff.mp h
  dsimp only at h
  split at h
  case isFalse => cases h
  case isTrue =>
    obtain rfl := Except.ok.inj h
    exact (readsWithinLimit _).value hvalue

/-- What a value within the limit has under a key keeps to the limit. -/
theorem keepsToLimit_of_get? {record v : Json} (h : record.keepsToLimit = true) {name : String}
    (hget : record.get? name = some v) : v.keepsToLimit = true := by
  cases record with
  | object fields =>
      rw [keepsToLimit, fieldsKeepToLimit_eq_all, List.all_eq_true] at h
      exact h _ (mem_of_lookup_eq_some hget)
  | _ => cases hget

end Json

/-! ## Submissions -/

namespace Submission

/-- What a submission is made of. -/
theorem ofJson_eq_ok {v : Json} {x : Submission} (h : ofJson v = .ok x) :
    (∀ f, readField v f = .ok (x.coordinate.get f)) ∧ readSubsidy v = .ok x.subsidy := by
  unfold ofJson at h
  split at h
  case h_2 => cases h
  case h_1 =>
    split at h
    case h_2 => cases h
    case h_1 hepoch hepochPosition hperiodPosition hsubsidyPosition hsubsidy =>
      obtain rfl := Except.ok.inj h
      exact ⟨Coordinate.Field.forall_iff.mpr
        ⟨hepoch, hepochPosition, hperiodPosition, hsubsidyPosition⟩, hsubsidy⟩

/-- Where the integers of an object keep to the limit, so do those that are made of it. -/
theorem keepsToLimit_of_ofJson {v : Json} {x : Submission} (h : ofJson v = .ok x)
    (hv : v.keepsToLimit = true) : x.KeepsToLimit := by
  have hinteger : ∀ key n, v.get? key = some (.int n) → WithinLimit n := fun key n hget =>
    of_decide_eq_true (Json.keepsToLimit_of_get? hv hget)
  obtain ⟨hfields, hsubsidy⟩ := ofJson_eq_ok h
  constructor
  · intro f
    obtain ⟨value, hget, hread⟩ := Issue.readField_eq_ok_iff.mp (hfields f)
    refine Lenient.withinLimit_of_integer ?_ (Lenient.natural_eq_ok_iff.mp hread).1
    rintro n rfl
    exact hinteger _ n hget
  · intro n hn
    rw [readSubsidy] at hsubsidy
    split at hsubsidy
    case h_1 =>
      rw [← Except.ok.inj hsubsidy] at hn
      cases hn
    case h_2 =>
      obtain ⟨value, hget, hread⟩ := Issue.readField_eq_ok_iff.mp hsubsidy
      rw [hn] at hread
      have hvalue : Lenient.integer value = .ok n := by
        rcases Lenient.optionalInteger_eq_ok_iff.mp hread with ⟨-, hnone⟩ | ⟨-, m, hm, heq⟩
        · cases hnone
        · rw [hm, Option.some.inj heq]
      refine Lenient.withinLimit_of_integer ?_ hvalue
      rintro m rfl
      exact hinteger _ m hget

end Submission

namespace Service

/-- What was read as a body keeps to the limit. -/
theorem keepsToLimit_of_readBody {r : Request} {v : Json} (h : readBody r = .ok v) :
    v.keepsToLimit = true := by
  unfold readBody at h
  split at h
  · cases h
  · split at h
    · cases h
    · split at h
      · cases h
      · split at h
        case h_1 hread =>
          obtain rfl := Except.ok.inj h
          exact Json.keepsToLimit_of_readPoints hread
        all_goals cases h

/-- What was read as a submission keeps to the limit. -/
theorem keepsToLimit_of_readSubmission {r : Request} {x : Submission}
    (h : readSubmission r = .ok x) : x.KeepsToLimit := by
  obtain ⟨v, hbody, hx⟩ := exists_readBody_of_readSubmission h
  exact Submission.keepsToLimit_of_ofJson hx (keepsToLimit_of_readBody hbody)

end Service

end SatRarity
