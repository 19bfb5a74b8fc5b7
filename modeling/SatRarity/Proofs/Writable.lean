import SatRarity.Proofs.Record
import SatRarity.Proofs.RoundTrip
import SatRarity.Service.Handler

set_option autoImplicit false

/-! # Values that can be written

A value is sent if its numbers and its texts can be written. A finite value has no number at fault
but an integer that is too long, `numberFault?_of_isFinite`; and nothing at all is at fault in an
exact value, `IsExact.writeFault?_eq_none`.

The service sends integers from outside in the record of a schedule, in that of a derivation, and in
reports. Both records are exact if their integers keep to the limit of numerals, and too long
otherwise; so it is decided by the integers alone whether they are sent, `Reply.send_schedule` and
`replyDerivation_of_keepsToLimit`.
-/

namespace SatRarity

open Text

namespace Json

/-! ## Numbers -/

theorem numberFaultOfItems?_eq_none_iff {items : List Json} :
    numberFaultOfItems? items = none ↔ ∀ item ∈ items, item.numberFault? = none := by
  induction items with
  | nil => simp [numberFaultOfItems?]
  | cons item items ih => simp [numberFaultOfItems?, ih]

theorem numberFaultOfFields?_eq_none_iff {fields : List (LooseText × Json)} :
    numberFaultOfFields? fields = none ↔ ∀ field ∈ fields, field.2.numberFault? = none := by
  induction fields with
  | nil => simp [numberFaultOfFields?]
  | cons field fields ih => simp [numberFaultOfFields?, ih]

/-- What a record says under a key can be written if its numbers can. -/
theorem numberFault?_of_get? {record v : Json} (h : record.numberFault? = none) {name : String}
    (hget : record.get? name = some v) : v.numberFault? = none := by
  cases record with
  | object fields =>
      rw [numberFault?, numberFaultOfFields?_eq_none_iff] at h
      exact h _ (mem_of_lookup_eq_some hget)
  | _ => cases hget

mutual

/-- Every integer in the value keeps to the limit of numerals. -/
def keepsToLimit : Json → Bool
  | int n => decide (WithinLimit n)
  | list items => itemsKeepToLimit items
  | object fields => fieldsKeepToLimit fields
  | null | bool _ | decimal _ _ _ | special _ | text _ => true

/-- Every integer in the items keeps to the limit of numerals. -/
def itemsKeepToLimit : List Json → Bool
  | [] => true
  | item :: items => item.keepsToLimit && itemsKeepToLimit items

/-- Every integer in the values of the fields keeps to the limit of numerals. -/
def fieldsKeepToLimit : List (LooseText × Json) → Bool
  | [] => true
  | (_, value) :: fields => value.keepsToLimit && fieldsKeepToLimit fields

end

theorem fieldsKeepToLimit_eq_all (fields : List (LooseText × Json)) :
    fieldsKeepToLimit fields = fields.all fun field => field.2.keepsToLimit := by
  induction fields with
  | nil => rfl
  | cons field fields ih => rw [fieldsKeepToLimit, ih, List.all_cons]

mutual

/-- A number in a finite value can only be at fault for its length. -/
theorem numberFault?_of_isFinite : ∀ v : Json, v.isFinite = true →
    v.numberFault? = if v.keepsToLimit then none else some .tooLong
  | null, _ | bool _, _ | text _, _ => rfl
  | int n, _ => by simp [numberFault?, keepsToLimit]
  | decimal negative mantissa exponent, h => if_pos h
  | special _, h => nomatch h
  | list items, h => numberFaultOfItems?_of_areFinite items h
  | object fields, h => numberFaultOfFields?_of_areFiniteFields fields h

theorem numberFaultOfItems?_of_areFinite : ∀ items : List Json, areFinite items = true →
    numberFaultOfItems? items = if itemsKeepToLimit items then none else some .tooLong
  | [], _ => rfl
  | item :: items, h => by
      obtain ⟨hitem, hitems⟩ := Bool.and_eq_true_iff.mp h
      have hfirst := numberFault?_of_isFinite item hitem
      have hrest := numberFaultOfItems?_of_areFinite items hitems
      rw [numberFaultOfItems?, hfirst, hrest, itemsKeepToLimit]
      cases item.keepsToLimit <;> simp

theorem numberFaultOfFields?_of_areFiniteFields : ∀ fields : List (LooseText × Json),
    areFiniteFields fields = true →
      numberFaultOfFields? fields = if fieldsKeepToLimit fields then none else some .tooLong
  | [], _ => rfl
  | (key, value) :: fields, h => by
      obtain ⟨hvalue, hfields⟩ := Bool.and_eq_true_iff.mp h
      have hfirst := numberFault?_of_isFinite value hvalue
      have hrest := numberFaultOfFields?_of_areFiniteFields fields hfields
      rw [numberFaultOfFields?, hfirst, hrest, fieldsKeepToLimit]
      cases value.keepsToLimit <;> simp

end

/-! ## Sending -/

/-- Where an integer is too long, nothing else is looked at. -/
theorem writeFault?_of_not_keepsToLimit {v : Json} (hfinite : v.isFinite = true)
    (h : v.keepsToLimit = false) : v.writeFault? = some .tooLong := by
  rw [writeFault?, numberFault?_of_isFinite v hfinite, h]
  rfl

theorem surrogateFault?_of_isWellFormed {t : LooseText} (h : t.isWellFormed = true) :
    surrogateFault? t = none := by
  have hdrop : t.points.dropWhile CodePoint.isChar = [] :=
    List.dropWhile_eq_nil_iff.mpr (List.all_eq_true.mp h)
  rw [surrogateFault?, hdrop]

theorem IsExact.numberFault?_eq_none {depth : Nat} {v : Json} (h : IsExact depth v) :
    v.numberFault? = none := by
  induction h with
  | null => rfl
  | bool b => rfl
  | int hn => exact if_pos hn
  | text hs => rfl
  | list hitems ih => exact numberFaultOfItems?_eq_none_iff.mpr ih
  | object hkeys htexts hvalues ih => exact numberFaultOfFields?_eq_none_iff.mpr ih

/-- An exact value can be sent. -/
theorem IsExact.writeFault?_eq_none {depth : Nat} {v : Json} (h : IsExact depth v) :
    v.writeFault? = none := by
  rw [writeFault?, h.numberFault?_eq_none, Option.none_or,
    surrogateFault?_of_isWellFormed (h.isWellFormed_write .compact)]

end Json

/-! ## Records -/

namespace Derivation

theorem isExact_toJson {d : Derivation} (h : d.KeepsToLimit) (depth : Nat) :
    Json.IsExact (depth + 2) d.toJson := by
  have hcoordinate : Json.IsExact (depth + 1) d.coordinate.toJson := by
    refine .record (Coordinate.Field.all.map fun f => (f.name, Json.int (d.coordinate.get f)))
      (by simp [Coordinate.Field.all, Coordinate.Field.name]) fun field hfield => ?_
    obtain ⟨f, -, rfl⟩ := List.mem_map.mp hfield
    exact .int (h.1 f)
  refine .record [("coordinate", d.coordinate.toJson), ("subsidy", .int d.subsidy),
    ("rarity", .text d.tier.name)] (by simp) ?_
  simp only [List.forall_mem_cons]
  exact ⟨hcoordinate, .int h.2, .text (LooseText.isWellFormed_ofString _), by simp⟩

theorem isFinite_toJson (d : Derivation) : d.toJson.isFinite = true := by
  simp [toJson, Coordinate.toJson, Coordinate.fields, Coordinate.Field.all, Json.isFinite,
    Json.areFiniteFields]

theorem keepsToLimit_toJson (d : Derivation) : d.toJson.keepsToLimit = true ↔ d.KeepsToLimit := by
  simp [toJson, Coordinate.toJson, Coordinate.fields, Coordinate.Field.all, Json.keepsToLimit,
    Json.fieldsKeepToLimit, KeepsToLimit, Coordinate.Field.forall_iff, and_assoc]

end Derivation

namespace Service

/-- What is sent is the body that was to be sent. -/
theorem Reply.eq_plain_of_send {status : Nat} {body : Body} {log : List LogEntry}
    {response : Response} (h : (Reply.send status body log).result = .response response) :
    response = .plain status body := by
  unfold Reply.send at h
  split at h
  · exact (Result.response.inj h).symm
  · cases h

theorem Reply.send_of_isExact (body : Body) {depth : Nat} (h : Json.IsExact depth body.written)
    (status : Nat) (log : List LogEntry) :
    Reply.send status body log = ⟨.response (.plain status body), log⟩ := by
  rw [Reply.send, h.writeFault?_eq_none]

theorem Reply.send_of_not_keepsToLimit (body : Body) (hfinite : body.written.isFinite = true)
    (h : ¬ body.written.keepsToLimit = true) (status : Nat) (log : List LogEntry) :
    Reply.send status body log = ⟨.unwritable .tooLong, log⟩ := by
  rw [Reply.send, Json.writeFault?_of_not_keepsToLimit hfinite (Bool.eq_false_iff.mpr h)]

/-- A derivation is sent if its integers keep to the limit. -/
theorem replyDerivation_of_keepsToLimit {d : Derivation} (h : d.KeepsToLimit) (r : Request) :
    replyDerivation r (.ok d) = ⟨.response (.plain 200 (.derivation d)), [.derived d]⟩ :=
  Reply.send_of_isExact (.derivation d) (Derivation.isExact_toJson h 0) 200 [.derived d]

theorem replyDerivation_of_not_keepsToLimit {d : Derivation} (h : ¬ d.KeepsToLimit)
    (r : Request) : replyDerivation r (.ok d) = ⟨.unwritable .tooLong, [.derived d]⟩ :=
  Reply.send_of_not_keepsToLimit (.derivation d) d.isFinite_toJson
    (mt d.keepsToLimit_toJson.mp h) 200 [.derived d]

end Service

end SatRarity
