import SatRarity.Proofs.Encodable
import SatRarity.Proofs.FieldIssues
import SatRarity.Proofs.Recognition
import SatRarity.Proofs.Resubmission

set_option autoImplicit false

/-! # Validation of submitted objects

An object that is sent to be derived is looked at field by field. A field offends by what is given
for it, whatever the rest of the object is and whatever schedule is active; and if some field
offends, the reply is the list of the issues, one for each field that does, and nothing is logged.
There is one way for this to fail: an issue repeats what was found, and where that holds a surrogate
the report cannot be encoded, so that nothing is answered at all. `objects_answered_by_fields` is
the whole of it, with what an object may say in other words without being answered otherwise.
-/

namespace SatRarity

open Text

namespace Submission

/-! ## The fields -/

/-- A field of a submission: one of the coordinate, or the subsidy. -/
inductive Part
  | position (f : Coordinate.Field)
  | subsidy
  deriving DecidableEq

namespace Part

/-- The fields in the order of declaration. -/
def all : List Part := Coordinate.Field.all.map position ++ [subsidy]

def name : Part → String
  | position f => f.name
  | subsidy => "subsidy"

/-- What is given for the field, if anything is, will not do: a field of the coordinate is missing,
no lenient integer or below zero; the subsidy is there, not null and no lenient integer. -/
def Offends (given : Option Json) : Part → Prop
  | position _ => given = none
      ∨ (∃ value, given = some value ∧ ∀ n, Lenient.integer value ≠ .ok n)
      ∨ ∃ value n, given = some value ∧ Lenient.integer value = .ok n ∧ n < 0
  | subsidy => ∃ value, given = some value ∧ value ≠ .null ∧ ∀ n, Lenient.integer value ≠ .ok n

/-- The issue of the field where this is given for it. Only the issue of a missing field repeats the
record. -/
inductive Has (record : Json) : Part → Option Json → Issue → Prop
  | missing {f : Coordinate.Field} :
    Has record (position f) none ⟨.missing, place ++ [f.name], record⟩
  | unread {f : Coordinate.Field} {value : Json} {kind : Issue.Kind}
    (hread : Lenient.integer value = .error kind) :
    Has record (position f) (some value) ⟨kind, place ++ [f.name], value⟩
  | negative {f : Coordinate.Field} {value : Json} {n : Int}
    (hread : Lenient.integer value = .ok n) (hn : n < 0) :
    Has record (position f) (some value) ⟨.negative, place ++ [f.name], value⟩
  | subsidy {value : Json} {kind : Issue.Kind} (hnull : value ≠ .null)
    (hread : Lenient.integer value = .error kind) :
    Has record subsidy (some value) ⟨kind, place ++ ["subsidy"], value⟩

theorem mem_all (p : Part) : p ∈ all := by
  cases p with
  | position f => cases f <;> decide
  | subsidy => decide

/-- A field offends just if there is an issue of it. -/
theorem offends_iff {p : Part} {given : Option Json} (record : Json) :
    p.Offends given ↔ ∃ i, p.Has record given i := by
  constructor
  · intro h
    cases p with
    | position f =>
        rcases h with rfl | ⟨value, rfl, hread⟩ | ⟨value, n, rfl, hread, hn⟩
        · exact ⟨_, .missing⟩
        · obtain ⟨kind, hkind⟩ := Lenient.exists_eq_error_iff.mpr hread
          exact ⟨_, .unread hkind⟩
        · exact ⟨_, .negative hread hn⟩
    | subsidy =>
        obtain ⟨value, rfl, hnull, hread⟩ := h
        obtain ⟨kind, hkind⟩ := Lenient.exists_eq_error_iff.mpr hread
        exact ⟨_, .subsidy hnull hkind⟩
  · rintro ⟨i, h⟩
    cases h with
    | missing => exact Or.inl rfl
    | unread hread =>
        exact Or.inr (Or.inl ⟨_, rfl, Lenient.exists_eq_error_iff.mp ⟨_, hread⟩⟩)
    | negative hread hn => exact Or.inr (Or.inr ⟨_, _, rfl, hread, hn⟩)
    | subsidy hnull hread =>
        exact ⟨_, rfl, hnull, Lenient.exists_eq_error_iff.mp ⟨_, hread⟩⟩

/-- An issue stands at the place of the field. -/
theorem Has.location_eq {record : Json} {p : Part} {given : Option Json} {i : Issue}
    (h : p.Has record given i) : i.location = place ++ [p.name] := by
  cases h <;> rfl

/-- An issue repeats what is given for the field, or the record where nothing is. -/
theorem Has.found_eq {record : Json} {p : Part} {given : Option Json} {i : Issue}
    (h : p.Has record given i) : i.found = given.getD record := by
  cases h <;> rfl

/-- Apart from what is repeated of the record, an issue depends on what is given for the field and
on nothing else. -/
theorem Has.eq_of_given {record record' : Json} {p : Part} {given : Option Json} {i i' : Issue}
    (h : p.Has record given i) (h' : p.Has record' given i') :
    i' = { i with found := given.getD record' } := by
  have hkind : i'.kind = i.kind := by
    cases h with
    | missing =>
        cases h' with
        | missing => rfl
    | unread hread =>
        cases h' with
        | unread hread' => exact Except.error.inj (hread'.symm.trans hread)
        | negative hread' => cases hread.symm.trans hread'
    | negative hread =>
        cases h' with
        | unread hread' => cases hread.symm.trans hread'
        | negative => rfl
    | subsidy _ hread =>
        cases h' with
        | subsidy _ hread' => exact Except.error.inj (hread'.symm.trans hread)
  have hlocation : i'.location = i.location := by
    rw [h.location_eq, h'.location_eq]
  rw [← hkind, ← hlocation, ← h'.found_eq]

end Part

/-! ## Reading the fields -/

section

variable {record : Json} {i : Issue}

theorem readField_eq_error_iff {f : Coordinate.Field} :
    readField record f = .error i ↔ (Part.position f).Has record (record.get? f.name) i := by
  rw [readField, Issue.readField_eq_error_iff]
  constructor
  · intro h
    cases h with
    | missing hgiven =>
        rw [hgiven]
        exact .missing
    | unread hgiven hread =>
        rw [hgiven]
        rcases Lenient.natural_eq_error_iff.mp hread with hread | ⟨rfl, n, hn, hread⟩
        · exact .unread hread
        · exact .negative hread hn
  · generalize hgiven : record.get? f.name = given
    intro h
    cases h with
    | missing => exact .missing hgiven
    | unread hread => exact .unread hgiven (Lenient.natural_eq_error_iff.mpr (Or.inl hread))
    | negative hread hn =>
        exact .unread hgiven (Lenient.natural_eq_error_iff.mpr (Or.inr ⟨rfl, _, hn, hread⟩))

theorem readSubsidy_eq_error_iff :
    readSubsidy record = .error i ↔ Part.subsidy.Has record (record.get? "subsidy") i := by
  rw [readSubsidy]
  split
  case h_1 hnone =>
    rw [hnone]
    constructor
    · intro h
      cases h
    · intro h
      cases h
  case h_2 value hvalue =>
    rw [Issue.readField_eq_error_iff, hvalue]
    constructor
    · intro h
      cases h with
      | missing hgiven => cases hgiven.symm.trans hvalue
      | unread hgiven hread =>
          obtain rfl := Option.some.inj (hgiven.symm.trans hvalue)
          obtain ⟨hnull, hread⟩ := Lenient.optionalInteger_eq_error_iff.mp hread
          exact .subsidy hnull hread
    · intro h
      cases h with
      | subsidy hnull hread =>
          exact .unread hvalue (Lenient.optionalInteger_eq_error_iff.mpr ⟨hnull, hread⟩)

/-- What is wrong with a field of the record, if something is. -/
def Part.issue? (record : Json) : Part → Option Issue
  | position f => Issue.of? (readField record f)
  | subsidy => Issue.of? (readSubsidy record)

theorem Part.issue?_eq_some_iff {p : Part} :
    p.issue? record = some i ↔ p.Has record (record.get? p.name) i := by
  cases p with
  | position f => exact Issue.of?_eq_some_iff.trans readField_eq_error_iff
  | subsidy => exact Issue.of?_eq_some_iff.trans readSubsidy_eq_error_iff

end

theorem issues_eq_filterMap (record : Json) :
    issues record = Part.all.filterMap (Part.issue? record) := by
  rw [issues, Part.all, List.filterMap_append, List.filterMap_map]
  cases h : Issue.of? (readSubsidy record) <;> simp [Part.issue?, h, Function.comp_def]

theorem mem_issues_iff {record : Json} {i : Issue} :
    i ∈ issues record ↔ ∃ p : Part, p.Has record (record.get? p.name) i := by
  simp only [issues_eq_filterMap, List.mem_filterMap, Part.issue?_eq_some_iff, Part.mem_all,
    true_and]

/-- The issues are those of the fields that offend. -/
theorem lists_issues (record : Json) :
    Issue.Lists Part.all (fun p => p.Offends (record.get? p.name))
      (fun p => p.Has record (record.get? p.name)) (issues record) := by
  rw [issues_eq_filterMap]
  exact Issue.lists_filterMap (fun p i => Part.issue?_eq_some_iff) fun p =>
    Part.offends_iff record

/-- An object is refused for its issues if some field offends. -/
theorem ofJson_of_offends {fields : List (LooseText × Json)} {p : Part}
    (h : p.Offends ((Json.object fields).get? p.name)) :
    ofJson (.object fields) = .error (issues (.object fields)) := by
  obtain ⟨i, hi⟩ := (Part.offends_iff (.object fields)).mp h
  have hissue := Part.issue?_eq_some_iff.mpr hi
  rw [ofJson]
  split
  case h_1 he hp hq hs hsubsidy =>
    -- all the fields were read, the one that offends among them
    exfalso
    cases p with
    | position f => cases f <;> simp [Part.issue?, he, hp, hq, hs, Issue.of?] at hissue
    | subsidy => simp [Part.issue?, hsubsidy, Issue.of?] at hissue
  case h_2 => rfl

/-- An object of which no field offends is a submission. -/
theorem exists_ofJson_of_not_offends {fields : List (LooseText × Json)}
    (h : ∀ p : Part, ¬ p.Offends ((Json.object fields).get? p.name)) :
    ∃ x, ofJson (.object fields) = .ok x := by
  have hnone : ∀ p : Part, p.issue? (.object fields) = none := by
    intro p
    refine Option.eq_none_iff_forall_ne_some.mpr fun i hi => h p ?_
    exact (Part.offends_iff (.object fields)).mpr ⟨i, Part.issue?_eq_some_iff.mp hi⟩
  obtain ⟨e, he⟩ := Issue.of?_eq_none_iff.mp (hnone (.position .epoch))
  obtain ⟨p, hp⟩ := Issue.of?_eq_none_iff.mp (hnone (.position .epochPosition))
  obtain ⟨q, hq⟩ := Issue.of?_eq_none_iff.mp (hnone (.position .periodPosition))
  obtain ⟨s, hs⟩ := Issue.of?_eq_none_iff.mp (hnone (.position .subsidyPosition))
  obtain ⟨n, hn⟩ := Issue.of?_eq_none_iff.mp (hnone .subsidy)
  exact ⟨_, by rw [ofJson, he, hp, hq, hs, hn]⟩

/-! ## Other words for the same -/

/-- The second is given in other words than the first: it is the same, or the decimal of an integer
in place of the integer. -/
inductive Respells : Option Json → Option Json → Prop
  | same (given : Option Json) : Respells given given
  | decimal {n : Int} (hn : WithinLimit n) :
    Respells (some (.int n)) (some (.text (LooseText.ofString (toString n))))

theorem Respells.exists_integer_eq {value : Json} {given : Option Json}
    (h : Respells (some value) given) :
    ∃ value', given = some value' ∧ (value' = .null ↔ value = .null)
      ∧ Lenient.integer value' = Lenient.integer value := by
  cases h with
  | same => exact ⟨value, rfl, Iff.rfl, rfl⟩
  | decimal hn =>
      refine ⟨_, rfl, by simp, ?_⟩
      simp only [Lenient.integer, LooseText.isWellFormed_ofString, if_true,
        LooseText.toString_ofString, Lenient.integerOfText_toString hn]

section

variable {record record' : Json} {x : Submission}

theorem readField_of_respells {f : Coordinate.Field}
    (hgiven : Respells (record.get? f.name) (record'.get? f.name)) {n : Int}
    (h : readField record f = .ok n) : readField record' f = .ok n := by
  rw [readField, Issue.readField_eq_ok_iff] at h ⊢
  obtain ⟨value, hvalue, hread⟩ := h
  rw [hvalue] at hgiven
  obtain ⟨value', hvalue', -, hinteger⟩ := hgiven.exists_integer_eq
  rw [Lenient.natural_eq_ok_iff, ← hinteger, ← Lenient.natural_eq_ok_iff] at hread
  exact ⟨value', hvalue', hread⟩

theorem readSubsidy_of_respells
    (hgiven : Respells (record.get? "subsidy") (record'.get? "subsidy")) {n? : Option Int}
    (h : readSubsidy record = .ok n?) : readSubsidy record' = .ok n? := by
  rw [readSubsidy] at h ⊢
  split at h
  case h_1 hnone =>
    rw [hnone] at hgiven
    generalize record'.get? "subsidy" = given at hgiven ⊢
    cases hgiven with
    | same => exact h
  case h_2 =>
    obtain ⟨value, hvalue, hread⟩ := Issue.readField_eq_ok_iff.mp h
    rw [hvalue] at hgiven
    obtain ⟨value', hvalue', hnull, hinteger⟩ := hgiven.exists_integer_eq
    rw [hvalue']
    refine Issue.readField_eq_ok_iff.mpr ⟨value', hvalue', ?_⟩
    rw [Lenient.optionalInteger_eq_ok_iff] at hread ⊢
    simpa only [ne_eq, hnull, hinteger] using hread

/-- What an object submits can be said in other words. -/
theorem ofJson_of_respells {fields fields' : List (LooseText × Json)}
    (hgiven : ∀ p : Part, Respells ((Json.object fields).get? p.name)
      ((Json.object fields').get? p.name))
    (h : ofJson (.object fields) = .ok x) : ofJson (.object fields') = .ok x := by
  obtain ⟨hfields, hsubsidy⟩ := ofJson_eq_ok h
  have hread : ∀ f, readField (.object fields') f = .ok (x.coordinate.get f) := fun f =>
    readField_of_respells (hgiven (.position f)) (hfields f)
  rw [ofJson, hread .epoch, hread .epochPosition, hread .periodPosition, hread .subsidyPosition,
    readSubsidy_of_respells (hgiven .subsidy) hsubsidy]
  rfl

end

end Submission

open Submission

namespace Service

/-! ## Bodies -/

/-- A local client posts a body that is declared as JSON to have it derived, and this comes of
reading the body. -/
structure Request.Sends (r : Request) (result : Except Json.ReadError Json) : Prop where
  isLocal : r.remoteHost? = none
  calls : r.Calls .derive
  declared : r.declaresJson = true
  read : ∃ t, Json.decode? r.body = some t ∧ Json.readPoints nestingLimit t.points = result

/-- A body that a local client posts as JSON to have it derived. -/
def Request.ofBody (body : String) : Request :=
  ⟨"POST", "/api/derive", "", body, some "application/json", none⟩

theorem Request.sends_ofBody {body : String} {result : Except Json.ReadError Json}
    (hbody : Json.decode? body = some (LooseText.ofString body))
    (hread : Json.readPoints nestingLimit (LooseText.ofString body).points = result) :
    (Request.ofBody body).Sends result where
  isLocal := rfl
  calls := ⟨show Route.ofPath? "/api/derive" = some .derive by decide, rfl⟩
  declared := show Request.isJsonType "application/json" = true by decide
  read := ⟨_, hbody, hread⟩

namespace Request.Sends

variable {r : Request}

/-- Nothing is malformed, so something was sent. -/
theorem isEmpty_body {result : Except Json.ReadError Json} (h : r.Sends result)
    (hresult : result ≠ .error .malformed) : r.body.isEmpty = false := by
  obtain ⟨t, ht, hread⟩ := h.read
  rw [Bool.eq_false_iff]
  intro hempty
  rw [String.isEmpty_iff.mp hempty] at ht
  have hnil : Json.decode? "" = some ⟨[]⟩ := rfl
  obtain rfl := Option.some.inj (hnil.symm.trans ht)
  exact hresult hread.symm

theorem readBody_eq {v : Json} (h : r.Sends (.ok v)) : readBody r = .ok v := by
  obtain ⟨t, ht, hread⟩ := h.read
  exact readBody_of_readPoints (h.isEmpty_body (by simp)) h.declared ht hread

/-- A body at which the reading was stopped is not looked at. -/
theorem handle_of_stopped {e : Json.ReadError} (h : r.Sends (.error e)) (he : e ≠ .malformed)
    (s : Schedule) :
    handle s r = .quiet 400 (.detail "There was an error parsing the body") := by
  have hbody : readBody r = .error .unparsed := by
    obtain ⟨t, ht, hread⟩ := h.read
    rw [readBody, h.isEmpty_body (by simpa using he), h.declared, ht]
    cases e with
    | malformed => exact absurd rfl he
    | integerTooLong | tooDeep =>
        simp only [hread]
        rfl
  rw [handle_of_calls h.isLocal h.calls, serve, readSubmission, hbody]

theorem handle_of_error {v : Json} (h : r.Sends (.ok v)) {found : List Issue}
    (hfound : ofJson v = .error found) (s : Schedule) : handle s r = .ofIssues found := by
  rw [handle_of_calls h.isLocal h.calls, serve, readSubmission, h.readBody_eq]
  simp only [hfound]

theorem submits {v : Json} (h : r.Sends (.ok v)) {x : Submission} (hx : ofJson v = .ok x) :
    r.Submits x where
  isLocal := h.isLocal
  calls := h.calls
  read := by
    rw [readSubmission, h.readBody_eq]
    simp only [hx]

end Request.Sends

/-! ## Replies -/

/-- What is shown of every issue of the record can be encoded. -/
def IsReportable (record : Json) : Prop :=
  ∀ p i, Part.Has record p (record.get? p.name) i → IsShowable i

theorem isReportable_iff {record : Json} :
    IsReportable record ↔ ∀ i ∈ issues record, IsShowable i := by
  simp only [IsReportable, mem_issues_iff]
  exact ⟨fun h i ⟨p, hi⟩ => h p i hi, fun h p i hi => h i ⟨p, hi⟩⟩

/-- Where all of the record can be encoded, what is repeated of it can be. -/
theorem isReportable_of_isEncodable {record : Json} (h : record.isEncodable = true) :
    IsReportable record := by
  intro p i hi
  refine isEncodable_shown i.found ?_
  rw [hi.found_eq]
  cases hget : record.get? p.name with
  | none => exact h
  | some value => exact Json.isEncodable_of_get? h hget

theorem numberFault?_of_mem_issues {record : Json} (h : record.numberFault? = none) {i : Issue}
    (hi : i ∈ issues record) : i.found.numberFault? = none := by
  obtain ⟨p, hp⟩ := mem_issues_iff.mp hi
  rw [hp.found_eq]
  cases hget : record.get? p.name with
  | none => exact h
  | some value => exact Json.numberFault?_of_get? h hget

theorem Reply.quiet_issues_inj {status : Nat} {found found' : List Issue} :
    Reply.quiet status (.issues found) = .quiet status (.issues found') ↔ found = found' := by
  simp [Reply.quiet, Response.plain]

/-- The domain accepts or rejects, and it does not refuse. -/
theorem status_of_replyDerivation {r : Request} {result : Except (Raised Rejection) Derivation}
    {status : Nat} {v : Json} (h : (replyDerivation r result).Answers status v) :
    status = 200 ∨ status = 400 := by
  obtain ⟨body, hresult, -⟩ := h
  cases result with
  | ok d => exact Or.inl (congrArg Response.status (Reply.eq_plain_of_send hresult))
  | error raised =>
      cases raised with
      | stated reason =>
          exact Or.inr (congrArg Response.status (Result.response.inj hresult)).symm
      | unwritable => cases hresult

/-- How a request is answered that sends a record. -/
structure IsAnsweredByFields (r : Request) (record : Json) : Prop where
  /-- The record is refused just if some field offends, as long as what is repeated of it can be
  encoded. -/
  refused_iff : ∀ s, (∃ v, (handle s r).Answers 422 v)
    ↔ (∃ p : Part, p.Offends (record.get? p.name)) ∧ IsReportable record
  /-- There is one issue for each field that offends, and they are the same under any schedule. -/
  listed : (∃ p : Part, p.Offends (record.get? p.name)) → IsReportable record →
    ∃ found, Issue.Lists Part.all (fun p => p.Offends (record.get? p.name))
        (fun p => p.Has record (record.get? p.name)) found
      ∧ ∀ s, handle s r = .quiet 422 (.issues found)
  /-- What is said of a field depends on what is given for it, and on the record only where nothing
  is given and the record is repeated. -/
  entry : ∀ {p i}, Part.Has record p (record.get? p.name) i → i.location = ["body", p.name]
    ∧ ∀ {record' i'}, record'.get? p.name = record.get? p.name →
      Part.Has record' p (record'.get? p.name) i' →
      i' = { i with found := (record.get? p.name).getD record' }
  /-- What is repeated can be encoded, if the record can. -/
  reportable : record.isEncodable = true → IsReportable record
  /-- If it cannot, nothing is answered. -/
  unsent : ¬ IsReportable record → ∃ first place count, ∀ s,
    handle s r = ⟨.unwritable (.surrogates first place count), []⟩
  /-- Another object in which the same is given for the fields is refused just if this one is. -/
  unknown : ∀ {r' fields'}, r'.Sends (.ok (.object fields')) →
    (Json.object fields').isFinite = true →
    (∀ p : Part, (Json.object fields').get? p.name = record.get? p.name) →
    IsReportable record → IsReportable (.object fields') → ∀ s,
      (∃ v, (handle s r').Answers 422 v) ↔ ∃ v, (handle s r).Answers 422 v
  /-- Where the record gets through to the domain, decimals may stand for its integers. -/
  respelled : ∀ {r' fields'}, r'.Sends (.ok (.object fields')) → r'.path = r.path →
    (∀ p : Part, Respells (record.get? p.name) ((Json.object fields').get? p.name)) →
    ∀ s {status v}, (handle s r).Answers status v → status = 200 ∨ status = 400 →
      handle s r' = handle s r

namespace Request.Sends

variable {r : Request} {fields : List (LooseText × Json)} (h : r.Sends (.ok (.object fields)))

include h

/-- The integers of an object that was read can be written. -/
theorem numberFault?_eq_none (hfinite : (Json.object fields).isFinite = true) :
    (Json.object fields).numberFault? = none := by
  obtain ⟨t, -, hread⟩ := h.read
  rw [Json.numberFault?_of_isFinite _ hfinite, Json.keepsToLimit_of_readPoints hread]
  rfl

/-- The issues are reported, if what is repeated of the object can be encoded. -/
theorem handle_of_isReportable (hfinite : (Json.object fields).isFinite = true) {p : Part}
    (hp : p.Offends ((Json.object fields).get? p.name))
    (hreportable : IsReportable (.object fields)) (s : Schedule) :
    handle s r = .quiet 422 (.issues (issues (.object fields))) := by
  rw [h.handle_of_error (ofJson_of_offends hp)]
  have hnumbers := h.numberFault?_eq_none hfinite
  exact ofIssues_of_isShowable (fun i => numberFault?_of_mem_issues hnumbers)
    (isReportable_iff.mp hreportable)

theorem handle_of_not_isReportable (hfinite : (Json.object fields).isFinite = true)
    (hreportable : ¬ IsReportable (.object fields)) :
    ∃ first place count, ∀ s,
      handle s r = ⟨.unwritable (.surrogates first place count), []⟩ := by
  simp only [isReportable_iff, not_forall] at hreportable
  obtain ⟨i, hi, hshowable⟩ := hreportable
  obtain ⟨p, hp⟩ := mem_issues_iff.mp hi
  obtain ⟨first, place, count, hissues⟩ := ofIssues_of_not_isShowable
    (fun i => numberFault?_of_mem_issues (h.numberFault?_eq_none hfinite)) hi hshowable
  refine ⟨first, place, count, fun s => ?_⟩
  rw [h.handle_of_error (ofJson_of_offends ((Part.offends_iff _).mpr ⟨i, hp⟩)), hissues]

/-- An object of which no field offends gets through to the domain. -/
theorem exists_submits (hp : ∀ p : Part, ¬ p.Offends ((Json.object fields).get? p.name)) :
    ∃ x, ofJson (.object fields) = .ok x ∧ r.Submits x := by
  obtain ⟨x, hx⟩ := exists_ofJson_of_not_offends hp
  exact ⟨x, hx, h.submits hx⟩

theorem isReportable_of_answers (hfinite : (Json.object fields).isFinite = true) {s : Schedule}
    {status : Nat} {v : Json} (hv : (handle s r).Answers status v) :
    IsReportable (.object fields) := by
  by_contra hreportable
  obtain ⟨first, place, count, hunsent⟩ := h.handle_of_not_isReportable hfinite hreportable
  rw [hunsent] at hv
  obtain ⟨body, hbody, -⟩ := hv
  cases hbody

theorem answers_422_iff (hfinite : (Json.object fields).isFinite = true) (s : Schedule) :
    (∃ v, (handle s r).Answers 422 v)
      ↔ (∃ p : Part, p.Offends ((Json.object fields).get? p.name))
        ∧ IsReportable (.object fields) := by
  constructor
  · rintro ⟨v, hv⟩
    refine ⟨?_, h.isReportable_of_answers hfinite hv⟩
    by_contra hnone
    obtain ⟨x, -, hx⟩ := h.exists_submits (not_exists.mp hnone)
    rw [hx.handle_eq] at hv
    have hstatus := status_of_replyDerivation hv
    omega
  · rintro ⟨⟨p, hp⟩, hreportable⟩
    rw [h.handle_of_isReportable hfinite hp hreportable]
    exact ⟨_, _, rfl, rfl⟩

theorem handle_of_respells {r' : Request} {fields' : List (LooseText × Json)}
    (h' : r'.Sends (.ok (.object fields'))) (hfinite : (Json.object fields).isFinite = true)
    (hpath : r'.path = r.path)
    (hgiven : ∀ p : Part, Respells ((Json.object fields).get? p.name)
      ((Json.object fields').get? p.name))
    {s : Schedule} {status : Nat} {v : Json} (hv : (handle s r).Answers status v)
    (hstatus : status = 200 ∨ status = 400) : handle s r' = handle s r := by
  have hnone : ∀ p : Part, ¬ p.Offends ((Json.object fields).get? p.name) := by
    intro p hp
    obtain ⟨v', hv'⟩ :=
      (h.answers_422_iff hfinite s).mpr ⟨⟨p, hp⟩, h.isReportable_of_answers hfinite hv⟩
    obtain rfl := hv.status_eq hv'
    omega
  obtain ⟨x, hx, hsubmits⟩ := h.exists_submits hnone
  rw [hsubmits.handle_eq, (h'.submits (ofJson_of_respells hgiven hx)).handle_eq]
  exact replyDerivation_congr (h'.calls.2.trans h.calls.2.symm) hpath _

end Request.Sends

/-- An object that is sent is refused for its fields, with one issue for each field that offends,
and the schedule has no part in it; a body at which the reading was stopped is not looked at. -/
theorem objects_answered_by_fields (r : Request) :
    (∀ fields : List (LooseText × Json), r.Sends (.ok (.object fields)) →
        (Json.object fields).isFinite = true → IsAnsweredByFields r (.object fields))
      ∧ ∀ e, r.Sends (.error e) → e ≠ .malformed → ∀ s,
        handle s r = .quiet 400 (.detail "There was an error parsing the body") := by
  refine ⟨fun fields h hfinite => ?_, fun e h he => h.handle_of_stopped he⟩
  exact {
    refused_iff := h.answers_422_iff hfinite
    listed := fun ⟨p, hp⟩ hreportable =>
      ⟨_, lists_issues _, h.handle_of_isReportable hfinite hp hreportable⟩
    entry := fun hi => ⟨hi.location_eq, fun hsame hi' => hi.eq_of_given (hsame ▸ hi')⟩
    reportable := isReportable_of_isEncodable
    unsent := h.handle_of_not_isReportable hfinite
    unknown := by
      intro r' fields' h' hfinite' hsame hreportable hreportable' s
      rw [h.answers_422_iff hfinite, h'.answers_422_iff hfinite']
      simp only [hsame, hreportable, hreportable']
    respelled := fun h' hpath hgiven s _ _ hv hstatus =>
      h.handle_of_respells h' hfinite hpath hgiven hv hstatus }

/-- The text is read as an object that passes the test. -/
def readsObject (text : String) (test : Json → Bool) : Bool :=
  match Json.readPoints nestingLimit (LooseText.ofString text).points with
  | .ok (.object fields) => test (.object fields)
  | _ => false

theorem exists_sends_of_readsObject (body : String) (test : Json → Bool)
    (hbody : Json.decode? body = some (LooseText.ofString body))
    (h : readsObject body test = true) :
    ∃ fields, (Request.ofBody body).Sends (.ok (.object fields))
      ∧ test (.object fields) = true := by
  rw [readsObject] at h
  split at h
  case h_1 fields hread => exact ⟨fields, Request.sends_ofBody hbody hread, h⟩
  case h_2 => cases h

/-- Four fields offend, of which one is missing. -/
theorem objects_answered_by_fields_several :
    ∃ found : List Issue,
      (∀ s, handle s (.ofBody
          "\x7b\"epoch\":-1,\"epoch_position\":\"x\",\"period_position\":true,\"subsidy\":[]\x7d")
        = .quiet 422 (.issues found))
        ∧ found.map (fun i => (i.kind, i.location))
          = [(.negative, ["body", "epoch"]), (.integerText, ["body", "epoch_position"]),
            (.missing, ["body", "subsidy_position"]), (.notInteger, ["body", "subsidy"])] := by
  obtain ⟨fields, hsends, htest⟩ := exists_sends_of_readsObject
    "\x7b\"epoch\":-1,\"epoch_position\":\"x\",\"period_position\":true,\"subsidy\":[]\x7d"
    (fun v => v.isFinite && v.isEncodable && (v.get? "subsidy_position").isNone
      && (issues v).map (fun i => (i.kind, i.location))
        == [(.negative, ["body", "epoch"]), (.integerText, ["body", "epoch_position"]),
          (.missing, ["body", "subsidy_position"]), (.notInteger, ["body", "subsidy"])])
    (by decide) (by decide +kernel)
  simp only [Bool.and_eq_true, Option.isNone_iff_eq_none, beq_iff_eq] at htest
  obtain ⟨⟨⟨hfinite, hencodable⟩, hnone⟩, hissues⟩ := htest
  have hfields := (objects_answered_by_fields _).1 _ hsends hfinite
  have hreportable := hfields.reportable hencodable
  have hmissing : (Part.position .subsidyPosition).Offends ((Json.object fields).get?
      (Part.position .subsidyPosition).name) := Or.inl hnone
  obtain ⟨found, -, hfound⟩ := hfields.listed ⟨_, hmissing⟩ hreportable
  have hsame := hsends.handle_of_isReportable hfinite hmissing hreportable .standard
  rw [hfound, Reply.quiet_issues_inj] at hsame
  exact ⟨found, hfound, hsame ▸ hissues⟩

/-- A body without the last field of a coordinate, where another key has a surrogate on its own. -/
def surrogateBody : String :=
  "\x7b\"epoch\":0,\"epoch_position\":0,\"period_position\":0,\"note\":\"\\ud800\"\x7d"

/-- A field is missing, and yet there is no status 422: the issue repeats the surrogate. -/
theorem not_refused_lone_surrogate :
    (∃ fields : List (LooseText × Json),
        (Request.ofBody surrogateBody).Sends (.ok (.object fields))
          ∧ (Json.object fields).isFinite = true
          ∧ (Part.position .subsidyPosition).Offends
            ((Json.object fields).get? "subsidy_position"))
      ∧ ∀ s v, ¬ (handle s (.ofBody surrogateBody)).Answers 422 v := by
  obtain ⟨fields, hsends, htest⟩ := exists_sends_of_readsObject surrogateBody
    (fun v => v.isFinite && (v.get? "subsidy_position").isNone && !(shown v).isEncodable)
    (by decide) (by decide +kernel)
  simp only [Bool.and_eq_true, Option.isNone_iff_eq_none, Bool.not_eq_true'] at htest
  obtain ⟨⟨hfinite, hnone⟩, hshown⟩ := htest
  refine ⟨⟨fields, hsends, hfinite, Or.inl hnone⟩, fun s v hv => ?_⟩
  -- the issue of the missing field repeats the object
  have hhas : Part.Has (.object fields) (.position .subsidyPosition)
      ((Json.object fields).get? "subsidy_position")
      ⟨.missing, ["body", "subsidy_position"], .object fields⟩ := by
    rw [hnone]
    exact .missing
  have hshowable := hsends.isReportable_of_answers hfinite hv (.position .subsidyPosition) _ hhas
  exact absurd (hshown.symm.trans hshowable) (by decide)

end Service

end SatRarity
