import SatRarity.Proofs.Posting

set_option autoImplicit false

/-! # Reports that can be sent

What is written of a value can be encoded if no text in the value holds a surrogate, and only then,
`all_isChar_writeValue`; so a value whose numbers can be written can be sent if its texts are
strings, `writeFault?_eq_none_iff`. Of a report this takes nothing but what it repeats: every other
text in it is a string, and its only other number a zero. Hence the issues are reported if all that
is shown of them can be encoded, `ofIssues_of_isShowable`, and nothing at all is answered if some of
it cannot, `ofIssues_of_not_isShowable`.
-/

namespace SatRarity

open Text

/-! ## Values that can be encoded -/

namespace Json

mutual

/-- No text in the value is one with surrogates. -/
def isEncodable : Json → Bool
  | text s => s.isWellFormed
  | list items => areEncodable items
  | object fields => areEncodableFields fields
  | null | bool _ | int _ | decimal _ _ _ | special _ => true

/-- No text in the items is one with surrogates. -/
def areEncodable : List Json → Bool
  | [] => true
  | item :: items => item.isEncodable && areEncodable items

/-- No key and no text in the values of the fields is one with surrogates. -/
def areEncodableFields : List (LooseText × Json) → Bool
  | [] => true
  | (key, value) :: fields => key.isWellFormed && (value.isEncodable && areEncodableFields fields)

end

theorem areEncodable_eq_all (items : List Json) : areEncodable items = items.all isEncodable := by
  induction items with
  | nil => rfl
  | cons item items ih => rw [areEncodable, ih, List.all_cons]

theorem areEncodableFields_eq_all (fields : List (LooseText × Json)) :
    areEncodableFields fields
      = fields.all fun field => field.1.isWellFormed && field.2.isEncodable := by
  induction fields with
  | nil => rfl
  | cons field fields ih => rw [areEncodableFields, ih, List.all_cons, Bool.and_assoc]

/-- What a record that can be encoded has under a key can be encoded. -/
theorem isEncodable_of_get? {record v : Json} (h : record.isEncodable = true) {name : String}
    (hget : record.get? name = some v) : v.isEncodable = true := by
  cases record with
  | object fields =>
      rw [isEncodable, areEncodableFields_eq_all, List.all_eq_true] at h
      exact (Bool.and_eq_true_iff.mp (h _ (mem_of_lookup_eq_some hget))).2
  | _ => cases hget

/-! ## Written forms -/

@[simp] theorem all_isChar_plain (t : List Char) : (plain t).all CodePoint.isChar = true := by
  simp [plain, CodePoint.isChar]

@[simp] theorem all_isChar_lineBreak (layout : Layout) (d : Nat) :
    (layout.lineBreak d).all CodePoint.isChar = true := by
  cases layout <;> simp [Layout.lineBreak]

@[simp] theorem all_isChar_colon (layout : Layout) :
    layout.colon.all CodePoint.isChar = true := by
  cases layout <;> simp [Layout.colon]

@[simp] theorem all_isChar_writeText (s : LooseText) :
    (writeText s).all CodePoint.isChar = s.isWellFormed := by
  have hpoint : ∀ p, (writePoint p).all CodePoint.isChar = p.isChar := by
    intro p
    cases p with
    | char c => exact all_isChar_plain (writeChar c)
    | surrogate n => rfl
  simp only [writeText, List.all_append, all_isChar_plain, List.all_flatMap, hpoint,
    Bool.true_and, Bool.and_true, LooseText.isWellFormed]

mutual

/-- The written form of a value holds a surrogate just if a text in the value does. -/
theorem all_isChar_writeValue (layout : Layout) (d : Nat) :
    ∀ v : Json, (writeValue layout d v).all CodePoint.isChar = v.isEncodable
  | null | bool _ | int _ | decimal _ _ _ | special _ => by
      simp only [writeValue, all_isChar_plain, isEncodable]
  | text s => by simp only [writeValue, all_isChar_writeText, isEncodable]
  | list [] | object [] => by
      simp only [writeValue, all_isChar_plain, isEncodable, areEncodable, areEncodableFields]
  | list (item :: items) => by
      have hitem := all_isChar_writeValue layout (d + 1) item
      have hitems := all_isChar_writeItems layout (d + 1) items
      simp [writeValue, isEncodable, areEncodable, hitem, hitems]
  | object ((key, value) :: fields) => by
      have hvalue := all_isChar_writeValue layout (d + 1) value
      have hfields := all_isChar_writeFields layout (d + 1) fields
      simp [writeValue, isEncodable, areEncodableFields, hvalue, hfields]

theorem all_isChar_writeItems (layout : Layout) (d : Nat) :
    ∀ items : List Json, (writeItems layout d items).all CodePoint.isChar = areEncodable items
  | [] => rfl
  | item :: items => by
      have hitem := all_isChar_writeValue layout d item
      have hitems := all_isChar_writeItems layout d items
      simp [writeItems, areEncodable, hitem, hitems]

theorem all_isChar_writeFields (layout : Layout) (d : Nat) :
    ∀ fields : List (LooseText × Json),
      (writeFields layout d fields).all CodePoint.isChar = areEncodableFields fields
  | [] => rfl
  | (key, value) :: fields => by
      have hvalue := all_isChar_writeValue layout d value
      have hfields := all_isChar_writeFields layout d fields
      simp [writeFields, areEncodableFields, hvalue, hfields]

end

/-! ## Sending -/

/-- A text is at fault for its first surrogate, if it has one. -/
theorem surrogateFault?_eq_none_iff {t : LooseText} :
    surrogateFault? t = none ↔ t.isWellFormed = true := by
  constructor
  · intro h
    rw [surrogateFault?] at h
    rw [LooseText.isWellFormed, List.all_eq_true, ← List.dropWhile_eq_nil_iff]
    cases hdrop : t.points.dropWhile CodePoint.isChar with
    | nil => rfl
    | cons p rest =>
        have hp : p.isChar = false := by
          have hhead := List.head?_dropWhile_not CodePoint.isChar t.points
          simpa [hdrop] using hhead
        rw [hdrop] at h
        cases p with
        | char c => cases hp
        | surrogate n => cases h
  · exact surrogateFault?_of_isWellFormed

/-- A value whose numbers can be written can be sent just if it can be encoded. -/
theorem writeFault?_eq_none_iff {v : Json} (h : v.numberFault? = none) :
    v.writeFault? = none ↔ v.isEncodable = true := by
  rw [writeFault?, h, Option.none_or, surrogateFault?_eq_none_iff, LooseText.isWellFormed, write,
    all_isChar_writeValue]

/-- If it cannot be encoded, it is at fault for its surrogates. -/
theorem exists_writeFault?_surrogates {v : Json} (h : v.numberFault? = none)
    (hv : v.isEncodable = false) :
    ∃ first place count, v.writeFault? = some (.surrogates first place count) := by
  cases hfault : v.writeFault? with
  | none =>
      rw [writeFault?_eq_none_iff h, hv] at hfault
      cases hfault
  | some fault =>
      rw [writeFault?, h, Option.none_or, surrogateFault?] at hfault
      split at hfault
      case h_1 => exact ⟨_, _, _, hfault.symm⟩
      case h_2 => cases hfault

end Json

/-! ## Reports -/

namespace Service

mutual

theorem numberFault?_shown : ∀ v : Json, v.numberFault? = none → (shown v).numberFault? = none
  | .null, h | .bool _, h | .int _, h | .decimal _ _ _, h | .special _, h | .text _, h => h
  | .list items, h => numberFaultOfItems?_shownItems items h
  | .object fields, h => numberFaultOfFields?_shownFields fields h

theorem numberFaultOfItems?_shownItems :
    ∀ items : List Json, Json.numberFaultOfItems? items = none →
      Json.numberFaultOfItems? (shownItems items) = none
  | [], h => h
  | item :: items, h => by
      obtain ⟨hitem, hitems⟩ := Option.or_eq_none_iff.mp h
      exact Option.or_eq_none_iff.mpr
        ⟨numberFault?_shown item hitem, numberFaultOfItems?_shownItems items hitems⟩

theorem numberFaultOfFields?_shownFields :
    ∀ fields : List (LooseText × Json), Json.numberFaultOfFields? fields = none →
      Json.numberFaultOfFields? (shownFields fields) = none
  | [], h => h
  | (key, value) :: fields, h => by
      obtain ⟨hvalue, hfields⟩ := Option.or_eq_none_iff.mp h
      have hshown := numberFaultOfFields?_shownFields fields hfields
      rw [shownFields]
      split
      · exact hshown
      · exact Option.or_eq_none_iff.mpr ⟨numberFault?_shown value hvalue, hshown⟩

end

mutual

theorem isEncodable_shown : ∀ v : Json, v.isEncodable = true → (shown v).isEncodable = true
  | .null, h | .bool _, h | .int _, h | .decimal _ _ _, h | .special _, h | .text _, h => h
  | .list items, h => areEncodable_shownItems items h
  | .object fields, h => areEncodableFields_shownFields fields h

theorem areEncodable_shownItems :
    ∀ items : List Json, Json.areEncodable items = true →
      Json.areEncodable (shownItems items) = true
  | [], h => h
  | item :: items, h => by
      obtain ⟨hitem, hitems⟩ := Bool.and_eq_true_iff.mp h
      exact Bool.and_eq_true_iff.mpr
        ⟨isEncodable_shown item hitem, areEncodable_shownItems items hitems⟩

theorem areEncodableFields_shownFields :
    ∀ fields : List (LooseText × Json), Json.areEncodableFields fields = true →
      Json.areEncodableFields (shownFields fields) = true
  | [], h => h
  | (key, value) :: fields, h => by
      obtain ⟨hkey, h⟩ := Bool.and_eq_true_iff.mp h
      obtain ⟨hvalue, hfields⟩ := Bool.and_eq_true_iff.mp h
      have hshown := areEncodableFields_shownFields fields hfields
      rw [shownFields]
      split
      · exact hshown
      · exact Bool.and_eq_true_iff.mpr ⟨hkey,
          Bool.and_eq_true_iff.mpr ⟨isEncodable_shown value hvalue, hshown⟩⟩

end

/-- The numbers that are reported of an issue can be written if those that are shown of it can. -/
theorem numberFault?_reported (i : Issue) :
    (reported i).numberFault? = (shown i.found).numberFault? := by
  have hlocation :
      Json.numberFaultOfItems? (i.location.map fun (part : String) => .text part) = none := by
    refine Json.numberFaultOfItems?_eq_none_iff.mpr fun item hitem => ?_
    obtain ⟨part, -, rfl⟩ := List.mem_map.mp hitem
    rfl
  have hcontext : Json.numberFaultOfFields? (context i.kind) = none := by
    cases i.kind <;> rfl
  simp [reported, Json.numberFault?, Json.numberFaultOfFields?, hlocation, hcontext]

/-- What is reported of an issue can be encoded if what is shown of it can. -/
theorem isEncodable_reported (i : Issue) :
    (reported i).isEncodable = (shown i.found).isEncodable := by
  have hlocation :
      Json.areEncodable (i.location.map fun (part : String) => .text part) = true := by
    rw [Json.areEncodable_eq_all, List.all_map]
    exact List.all_eq_true.mpr fun part _ => LooseText.isWellFormed_ofString part
  have hcontext : Json.areEncodableFields (context i.kind) = true := by
    cases i.kind <;> rfl
  simp [reported, Json.isEncodable, Json.areEncodableFields, hlocation, hcontext]

theorem isEncodable_report (found : List Issue) :
    (report found).isEncodable = found.all fun i => (shown i.found).isEncodable := by
  simp [report, Json.isEncodable, Json.areEncodableFields, Json.areEncodable_eq_all, List.all_map,
    Function.comp_def, isEncodable_reported]

/-- What is shown of the issue can be encoded. -/
def IsShowable (i : Issue) : Prop := (shown i.found).isEncodable = true

section OfIssues

variable {found : List Issue} (hnumbers : ∀ i ∈ found, i.found.numberFault? = none)

include hnumbers

theorem numberFault?_report : (report found).numberFault? = none := by
  have hitems : Json.numberFaultOfItems? (found.map reported) = none := by
    refine Json.numberFaultOfItems?_eq_none_iff.mpr fun item hitem => ?_
    obtain ⟨i, hi, rfl⟩ := List.mem_map.mp hitem
    rw [numberFault?_reported]
    exact numberFault?_shown i.found (hnumbers i hi)
  simp [report, Json.numberFault?, Json.numberFaultOfFields?, hitems]

/-- The issues are reported, if what is shown of each of them can be encoded. -/
theorem ofIssues_of_isShowable (h : ∀ i ∈ found, IsShowable i) :
    Reply.ofIssues found = .quiet 422 (.issues found) := by
  have hencodable : (report found).isEncodable = true := by
    rw [isEncodable_report, List.all_eq_true]
    exact h
  have hfault := (Json.writeFault?_eq_none_iff (numberFault?_report hnumbers)).mpr hencodable
  rw [Reply.ofIssues, Reply.send, Body.written, hfault]
  rfl

/-- They are not, if what is shown of one of them cannot be encoded. -/
theorem ofIssues_of_not_isShowable {i : Issue} (hi : i ∈ found) (h : ¬ IsShowable i) :
    ∃ first place count,
      Reply.ofIssues found = ⟨.unwritable (.surrogates first place count), []⟩ := by
  have hencodable : (report found).isEncodable = false := by
    rw [isEncodable_report, List.all_eq_false]
    exact ⟨i, hi, h⟩
  obtain ⟨first, place, count, hfault⟩ :=
    Json.exists_writeFault?_surrogates (numberFault?_report hnumbers) hencodable
  exact ⟨first, place, count, by rw [Reply.ofIssues, Reply.send, Body.written, hfault]⟩

end OfIssues

end Service

end SatRarity
