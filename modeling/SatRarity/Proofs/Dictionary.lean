import SatRarity.Coordinate.Dictionary
import SatRarity.Proofs.Acceptance
import SatRarity.Proofs.Fallible
import SatRarity.Proofs.Numeral
import SatRarity.Proofs.Record

set_option autoImplicit false

/-! # Coordinates in records

A record is read as a coordinate if each of its four fields stands for an integer, `StandsFor`, and
otherwise it is refused because of the first of them, in the order of declaration, that is missing
or stands for none, `IsFirstFault`. So neither the order of the fields nor other fields make a
difference, nor what is wrong with later fields. The record of a coordinate is read back, even with
decimals in the place of integers; hence what was read once is read again without a change.
`coordinates_from_records` says all of it.
-/

namespace SatRarity.Coordinate

open Text

/-! ## Values -/

/-- The value stands for the integer: it is the integer, a truth value, a decimal that is the
integer once its fraction is dropped, or a text that denotes the integer. -/
inductive StandsFor : Json → Int → Prop
  | int (n : Int) : StandsFor (.int n) n
  | bool (b : Bool) : StandsFor (.bool b) (if b then 1 else 0)
  | decimal {negative : Bool} {mantissa : Nat} {exponent n : Int}
    (h : (Binary64.ofDecimal negative mantissa exponent).truncate? = some n) :
    StandsFor (.decimal negative mantissa exponent) n
  | text {s : LooseText} {n : Int} (h : Numeral.Denotes s.toString.toList n) :
    StandsFor (.text s) n

/-- The value is finite and stands for no integer, and this is the error. -/
inductive Misfits : Json → DictionaryError → Prop
  | null : Misfits .null (.notNumber .null)
  | list (items : List Json) : Misfits (.list items) (.notNumber (.list items))
  | object (fields : List (LooseText × Json)) :
    Misfits (.object fields) (.notNumber (.object fields))
  /-- The text denotes no integer, for a reason that the reader of numerals gives. -/
  | text {s : LooseText} {e : Numeral.Error} (hnone : ∀ n, ¬ Numeral.Denotes s.toString.toList n)
    (he : Numeral.read s.toString = .error e) : Misfits (.text s) (.numeral s e)

theorem integerOf_eq_ok_iff {v : Json} {n : Int} : integerOf v = .ok n ↔ StandsFor v n := by
  constructor
  · intro h
    cases v with
    | int m =>
        obtain rfl := Except.ok.inj h
        exact .int m
    | bool b =>
        obtain rfl := Except.ok.inj h
        exact .bool b
    | decimal negative mantissa exponent =>
        rw [integerOf] at h
        split at h
        case h_1 m hm =>
          obtain rfl := Except.ok.inj h
          exact .decimal hm
        case h_2 => cases h
    | special s => cases s <;> cases h
    | text s =>
        rw [integerOf] at h
        split at h
        case h_1 m hm =>
          obtain rfl := Except.ok.inj h
          exact .text (Numeral.denotes_of_readChars hm)
        case h_2 => cases h
    | null | list _ | object _ => cases h
  · intro h
    cases h with
    | int n => rfl
    | bool b => rfl
    | decimal h => rw [integerOf, h]
    | text h => rw [integerOf, Numeral.read, h.readChars_eq]

theorem integerOf_eq_error_iff {v : Json} (hfinite : v.isFinite = true) {e : DictionaryError} :
    integerOf v = .error e ↔ Misfits v e := by
  constructor
  · intro h
    cases v with
    | null =>
        obtain rfl := Except.error.inj h
        exact .null
    | list items =>
        obtain rfl := Except.error.inj h
        exact .list items
    | object fields =>
        obtain rfl := Except.error.inj h
        exact .object fields
    | text s =>
        rw [integerOf] at h
        split at h
        case h_1 => cases h
        case h_2 e' he =>
          obtain rfl := Except.error.inj h
          exact .text (Numeral.exists_readChars_eq_error_iff.mp ⟨e', he⟩) he
    | decimal negative mantissa exponent =>
        -- a finite number has an integer part
        rw [Json.isFinite] at hfinite
        rw [integerOf] at h
        cases hx : Binary64.ofDecimal negative mantissa exponent with
        | finite negative m e' =>
            rw [hx] at h
            cases h
        | infinite negative =>
            rw [hx] at hfinite
            cases hfinite
    | special s => cases hfinite
    | int _ | bool _ => cases h
  · intro h
    cases h with
    | null | list _ | object _ => rfl
    | text _ he => rw [integerOf, he]

/-! ## Fields -/

/-- What is wrong with a field of a record: it is missing, or its value stands for no integer. -/
inductive Fault (v : Json) (f : Field) : DictionaryError → Prop
  | missing (h : v.get? f.name = none) : Fault v f (.missing f)
  | misfit {value : Json} {e : DictionaryError} (h : v.get? f.name = some value)
    (hvalue : Misfits value e) : Fault v f e

/-- Something is wrong with a field of the record, and nothing with those declared before it. -/
def IsFirstFault (v : Json) (e : DictionaryError) : Prop :=
  ∃ before f after, Field.all = before ++ f :: after ∧ Fault v f e
    ∧ ∀ f' ∈ before, ∃ value n, v.get? f'.name = some value ∧ StandsFor value n

theorem readField_eq_ok_iff {v : Json} {f : Field} {n : Int} :
    readField v f = .ok n ↔ ∃ value, v.get? f.name = some value ∧ StandsFor value n := by
  rw [readField]
  split
  case h_1 value hvalue => simp [hvalue, integerOf_eq_ok_iff]
  case h_2 hnone => simp [hnone]

theorem readField_eq_error_iff {v : Json} (hfinite : v.isFinite = true) {f : Field}
    {e : DictionaryError} : readField v f = .error e ↔ Fault v f e := by
  rw [readField]
  split
  case h_1 value hvalue =>
    rw [integerOf_eq_error_iff (Json.isFinite_of_get? hfinite hvalue)]
    constructor
    · exact .misfit hvalue
    · intro h
      cases h with
      | missing h => cases hvalue.symm.trans h
      | misfit h hmisfit =>
          obtain rfl := Option.some.inj (hvalue.symm.trans h)
          exact hmisfit
  case h_2 hnone =>
    constructor
    · intro h
      obtain rfl := Except.error.inj h
      exact .missing hnone
    · intro h
      cases h with
      | missing => rfl
      | misfit h => cases hnone.symm.trans h

/-! ## Records -/

variable {fields fields' others : List (LooseText × Json)} {c : Coordinate}

theorem ofJson_eq_ok_iff_readField :
    ofJson (.object fields) = .ok c ↔ ∀ f, readField (.object fields) f = .ok (c.get f) := by
  simp only [ofJson, bind_eq_ok_iff]
  constructor
  · rintro ⟨epoch, hepoch, epochPosition, hepochPosition, periodPosition, hperiodPosition,
      subsidyPosition, hsubsidyPosition, hc⟩
    obtain rfl := Except.ok.inj hc
    exact Field.forall_iff.mpr ⟨hepoch, hepochPosition, hperiodPosition, hsubsidyPosition⟩
  · intro h
    exact ⟨_, h .epoch, _, h .epochPosition, _, h .periodPosition, _, h .subsidyPosition, rfl⟩

/-- A record fails as its fields do when they are read one after the other. -/
theorem ofJson_eq_error_iff_mapM {e : DictionaryError} :
    ofJson (.object fields) = .error e
      ↔ Field.all.mapM (readField (.object fields)) = .error e := by
  simp only [ofJson, Field.all, mapM_cons_eq_error_iff, bind_eq_error_iff, List.mapM_nil, pure,
    Except.pure, reduceCtorEq, and_false, exists_false, or_false, exists_and_right]

/-- Only what the record says of the four fields is looked at. -/
theorem ofJson_congr
    (h : ∀ f : Field, (Json.object fields).get? f.name = (Json.object fields').get? f.name) :
    ofJson (.object fields) = ofJson (.object fields') := by
  have hfield : ∀ f, readField (.object fields) f = readField (.object fields') f := by
    intro f
    rw [readField, readField, h]
  simp only [ofJson, hfield]

/-- The value is an integer, or its decimal. -/
inductive Spells : Json → Int → Prop
  | int (n : Int) : Spells (.int n) n
  | decimal {n : Int} (h : WithinLimit n) : Spells (.text (toString n)) n

theorem Spells.standsFor {v : Json} {n : Int} (h : Spells v n) : StandsFor v n := by
  cases h with
  | int => exact .int n
  | decimal h =>
      refine .text ?_
      rw [LooseText.toString_ofString]
      exact Numeral.denotes_toString h

/-- The fields are those of the coordinate, each spelled as an integer or as a decimal, with other
fields among them and in whatever order. -/
def IsRecordOf (c : Coordinate) (fields : List (LooseText × Json)) : Prop :=
  ∃ (value : Field → Json) (others : List (LooseText × Json)),
    (∀ f, Spells (value f) (c.get f))
      ∧ (∀ field ∈ others, ∀ f : Field, field.1 ≠ LooseText.ofString f.name)
      ∧ fields.Perm ((Field.all.map fun f => (LooseText.ofString f.name, value f)) ++ others)

theorem IsRecordOf.exists_get? (h : IsRecordOf c fields) (f : Field) :
    ∃ value, (Json.object fields).get? f.name = some value ∧ StandsFor value (c.get f) := by
  obtain ⟨value, others, hvalue, hothers, hperm⟩ := h
  have hmem : (LooseText.ofString f.name, value f) ∈ fields :=
    hperm.mem_iff.mpr (List.mem_append_left _ (List.mem_map.mpr ⟨f, f.mem_all, rfl⟩))
  refine ⟨value f, Json.lookup_eq_some_of_mem hmem fun w hw => ?_, (hvalue f).standsFor⟩
  -- another field with this name would be one of the four, and hence this one
  rcases List.mem_append.mp (hperm.mem_iff.mp hw) with hw | hw
  · obtain ⟨f', -, heq⟩ := List.mem_map.mp hw
    obtain ⟨hname, rfl⟩ := Prod.mk.inj heq
    rw [Field.name_injective (LooseText.ofString_injective hname)]
  · exact absurd rfl (hothers _ hw f)

theorem ofJson_of_isRecordOf (h : IsRecordOf c fields) : ofJson (.object fields) = .ok c :=
  ofJson_eq_ok_iff_readField.mpr fun f => readField_eq_ok_iff.mpr (h.exists_get? f)

theorem ofJson_toJson (c : Coordinate) : ofJson c.toJson = .ok c := rfl

/-- A record is read as the coordinate for whose integers its fields stand, or refused because of
the first field at fault. -/
structure IsReadByFields (fields : List (LooseText × Json)) : Prop where
  ok_iff : ∀ c, ofJson (.object fields) = .ok c
    ↔ ∀ f : Field, ∃ value, (Json.object fields).get? f.name = some value
      ∧ StandsFor value (c.get f)
  error_iff : ∀ e, ofJson (.object fields) = .error e ↔ IsFirstFault (.object fields) e
  /-- What was read is written as four integers, and read again as it is. -/
  again : ∀ c, ofJson (.object fields) = .ok c →
    c.toJson = .object [("epoch", .int c.epoch), ("epoch_position", .int c.epochPosition),
        ("period_position", .int c.periodPosition), ("subsidy_position", .int c.subsidyPosition)]
      ∧ ofJson c.toJson = .ok c
  /-- The order makes no difference, if no key is repeated. -/
  perm : ∀ fields', fields'.Perm fields → (fields'.map Prod.fst).Nodup →
    ofJson (.object fields') = ofJson (.object fields)
  /-- Other fields make none. -/
  append : ∀ others : List (LooseText × Json),
    (∀ field ∈ others, ∀ f : Field, field.1 ≠ LooseText.ofString f.name) →
    ofJson (.object (fields ++ others)) = ofJson (.object fields)

theorem ofJson_eq_error_iff (hfinite : (Json.object fields).isFinite = true)
    {e : DictionaryError} :
    ofJson (.object fields) = .error e ↔ IsFirstFault (.object fields) e := by
  rw [ofJson_eq_error_iff_mapM, mapM_eq_error_iff]
  constructor
  · rintro ⟨before, f, after, hall, hbefore, hfault⟩
    refine ⟨before, f, after, hall, (readField_eq_error_iff hfinite).mp hfault, fun f' hf' => ?_⟩
    obtain ⟨n, hn⟩ := hbefore f' hf'
    obtain ⟨value, hvalue, hstands⟩ := readField_eq_ok_iff.mp hn
    exact ⟨value, n, hvalue, hstands⟩
  · rintro ⟨before, f, after, hall, hfault, hbefore⟩
    refine ⟨before, f, after, hall, fun f' hf' => ?_, (readField_eq_error_iff hfinite).mpr hfault⟩
    obtain ⟨value, n, hvalue, hstands⟩ := hbefore f' hf'
    exact ⟨n, readField_eq_ok_iff.mpr ⟨value, hvalue, hstands⟩⟩

/-- Coordinates are read back from their records, however these are spelled and arranged; and any
finite record is read by its four fields, so that the first one at fault is the error. -/
theorem coordinates_from_records :
    (∀ c : Coordinate, ofJson c.toJson = .ok c)
      ∧ (∀ (c : Coordinate) (fields : List (LooseText × Json)), IsRecordOf c fields →
          ofJson (.object fields) = .ok c)
      ∧ ∀ fields : List (LooseText × Json), (Json.object fields).isFinite = true →
          IsReadByFields fields := by
  refine ⟨ofJson_toJson, fun c fields => ofJson_of_isRecordOf, fun fields hfinite => ?_⟩
  exact {
    ok_iff := fun c => by
      rw [ofJson_eq_ok_iff_readField]
      exact forall_congr' fun f => readField_eq_ok_iff
    error_iff := fun e => ofJson_eq_error_iff hfinite
    again := fun c _ => ⟨rfl, ofJson_toJson c⟩
    perm := fun fields' hperm hkeys => ofJson_congr fun f => Json.lookup_perm hperm hkeys
    append := fun others hothers => ofJson_congr fun f =>
      Json.lookup_append_of_ne fun field hfield => hothers field hfield f }

end SatRarity.Coordinate
