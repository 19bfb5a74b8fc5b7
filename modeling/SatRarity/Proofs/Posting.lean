import SatRarity.Proofs.Acceptance
import SatRarity.Proofs.Writable

set_option autoImplicit false

/-! # Posted submissions

A submission is posted as the record of its integers, in either layout, by a local client. The
service reads the body back as that record. If no field is negative, the reply is that of the domain
to the submission, `handle_of_posts`; otherwise it reports every negative field in the order of
declaration, `handle_of_posts_negative`, and that report can always be sent.
-/

namespace SatRarity

open Text

/-! ## Submissions as records -/

namespace Coordinate

/-- The record of a coordinate, with something in the place of the subsidy or nothing. -/
def recordWith (c : Coordinate) (subsidy : Option Json) : Json :=
  .object ((c.fields.map fun (name, n) => (LooseText.ofString name, .int n))
    ++ subsidy.toList.map fun v => (LooseText.ofString "subsidy", v))

theorem isExact_recordWith {c : Coordinate} (hc : ∀ f, WithinLimit (c.get f)) {depth : Nat}
    {subsidy : Option Json} (hsubsidy : ∀ v ∈ subsidy, v.IsExact depth) :
    Json.IsExact (depth + 1) (c.recordWith subsidy) := by
  -- the keys of the record are strings, so it is one list of named values
  have hnamed : c.recordWith subsidy = .object
      (((Coordinate.Field.all.map fun f => (f.name, Json.int (c.get f)))
        ++ subsidy.toList.map fun v => ("subsidy", v)).map
          fun field => (LooseText.ofString field.1, field.2)) := by
    cases subsidy <;> rfl
  rw [hnamed]
  refine .record _ ?_ ?_
  · cases subsidy <;> simp [Coordinate.Field.all, Coordinate.Field.name]
  · intro field hfield
    rcases List.mem_append.mp hfield with hfield | hfield
    · obtain ⟨f, -, rfl⟩ := List.mem_map.mp hfield
      exact .int (hc f)
    · obtain ⟨v, hv, rfl⟩ := List.mem_map.mp hfield
      exact hsubsidy v (Option.mem_toList.mp hv)

@[simp] theorem get?_recordWith (c : Coordinate) (subsidy : Option Json) (f : Field) :
    (c.recordWith subsidy).get? f.name = some (.int (c.get f)) := by
  cases f <;> rfl

end Coordinate

namespace Submission

/-- The record that submits a coordinate, and a subsidy if there is one. -/
def toJson (x : Submission) : Json :=
  .object ((x.coordinate.fields.map fun (name, n) => (LooseText.ofString name, .int n))
    ++ x.subsidy.toList.map fun n => (LooseText.ofString "subsidy", .int n))

theorem toJson_eq_recordWith (x : Submission) :
    x.toJson = x.coordinate.recordWith (x.subsidy.map .int) := by
  obtain ⟨c, subsidy⟩ := x
  cases subsidy <;> rfl

theorem isExact_toJson {x : Submission} (h : x.KeepsToLimit) (depth : Nat) :
    Json.IsExact (depth + 1) x.toJson := by
  rw [toJson_eq_recordWith]
  refine Coordinate.isExact_recordWith h.1 fun v hv => ?_
  obtain ⟨n, hn, rfl⟩ := Option.map_eq_some_iff.mp hv
  exact .int (h.2 n hn)

/-- The issue of a field that is below zero. -/
def negativeIssue (c : Coordinate) (f : Coordinate.Field) : Issue :=
  ⟨.negative, place ++ [f.name], .int (c.get f)⟩

/-- The issues of the fields that are below zero, in the order of declaration. -/
def negativeIssues (c : Coordinate) : List Issue :=
  (Coordinate.Field.all.filter fun f => c.get f < 0).map (negativeIssue c)

theorem readField_recordWith (c : Coordinate) (subsidy : Option Json) (f : Coordinate.Field) :
    readField (c.recordWith subsidy) f
      = if c.get f < 0 then .error (negativeIssue c f) else .ok (c.get f) := by
  simp only [readField, Issue.readField, Coordinate.get?_recordWith, Lenient.natural,
    Lenient.integer]
  by_cases h : c.get f < 0
  · simp [h, bind, Except.bind, negativeIssue]
  · simp [h, bind, Except.bind]

theorem readField_toJson (x : Submission) (f : Coordinate.Field) :
    readField x.toJson f
      = if x.coordinate.get f < 0 then .error (negativeIssue x.coordinate f)
        else .ok (x.coordinate.get f) := by
  rw [toJson_eq_recordWith, readField_recordWith]

theorem readSubsidy_toJson (x : Submission) : readSubsidy x.toJson = .ok x.subsidy := by
  obtain ⟨c, subsidy⟩ := x
  cases subsidy <;> rfl

theorem issues_toJson (x : Submission) : issues x.toJson = negativeIssues x.coordinate := by
  have hfield : ∀ f, Issue.of? (readField x.toJson f)
      = if x.coordinate.get f < 0 then some (negativeIssue x.coordinate f) else none := by
    intro f
    rw [readField_toJson]
    split <;> rfl
  have hsubsidy : (Issue.of? (readSubsidy x.toJson)).toList = [] := by
    rw [readSubsidy_toJson]
    rfl
  rw [issues, hsubsidy, List.append_nil, negativeIssues, ← List.filterMap_eq_map,
    List.filterMap_filter]
  simp only [hfield, decide_eq_true_eq, Function.comp_apply]

/-- A record without a negative field is read as the coordinate, with what is read of its
subsidy. -/
theorem ofJson_recordWith {c : Coordinate} (hnonneg : ∀ f, 0 ≤ c.get f) {given : Option Json}
    {subsidy : Option Int} (hsubsidy : readSubsidy (c.recordWith given) = .ok subsidy) :
    ofJson (c.recordWith given) = .ok ⟨c, subsidy⟩ := by
  have hfield : ∀ f, readField (c.recordWith given) f = .ok (c.get f) := by
    intro f
    rw [readField_recordWith, if_neg (Int.not_lt.mpr (hnonneg f))]
  rw [Coordinate.recordWith, ofJson, ← Coordinate.recordWith]
  simp only [hfield, hsubsidy]
  rfl

/-- A submission without a negative field is read back from its record. -/
theorem ofJson_toJson {x : Submission} (h : ∀ f, 0 ≤ x.coordinate.get f) :
    ofJson x.toJson = .ok x := by
  have hsubsidy := readSubsidy_toJson x
  rw [toJson_eq_recordWith] at hsubsidy ⊢
  exact ofJson_recordWith h hsubsidy

/-- A submission with a negative field is none, and each such field is an issue. -/
theorem ofJson_toJson_negative {x : Submission} {f : Coordinate.Field}
    (h : x.coordinate.get f < 0) : ofJson x.toJson = .error (negativeIssues x.coordinate) := by
  have hfield : readField x.toJson f = .error (negativeIssue x.coordinate f) := by
    rw [readField_toJson, if_pos h]
  rw [toJson, ofJson, ← toJson, issues_toJson]
  split
  case h_1 he hp hq hs _ =>
    -- the negative field is one of the four that were read
    cases f with
    | epoch => cases hfield.symm.trans he
    | epochPosition => cases hfield.symm.trans hp
    | periodPosition => cases hfield.symm.trans hq
    | subsidyPosition => cases hfield.symm.trans hs
  case h_2 => rfl

end Submission

namespace Service

/-! ## The report of negative fields -/

theorem isExact_reported {c : Coordinate} {f : Coordinate.Field} (h : WithinLimit (c.get f)) :
    Json.IsExact 2 (reported (Submission.negativeIssue c f)) := by
  have htext : ∀ (depth : Nat) (s : String), Json.IsExact depth (.text (LooseText.ofString s)) :=
    fun depth s => .text (LooseText.isWellFormed_ofString s)
  have hplace : Json.IsExact 1
      (.list ((Submission.place ++ [f.name]).map fun (part : String) => .text part)) := by
    refine .list fun item hitem => ?_
    obtain ⟨part, -, rfl⟩ := List.mem_map.mp hitem
    exact htext 0 part
  have hcontext : Json.IsExact 1 (.object [("ge", .int 0)]) := by
    refine .record [("ge", .int 0)] (by decide) ?_
    intro field hfield
    rw [List.mem_singleton.mp hfield]
    exact .int (by decide)
  refine .record [("type", .text Issue.Kind.negative.code),
    ("loc", .list ((Submission.place ++ [f.name]).map fun (part : String) => .text part)),
    ("msg", .text Issue.Kind.negative.message), ("input", .int (c.get f)),
    ("ctx", .object [("ge", .int 0)])] ?_ ?_
  · simp
  · simp only [List.forall_mem_cons]
    exact ⟨htext 1 _, hplace, htext 1 _, .int h, hcontext, by simp⟩

/-- The report of negative fields can be sent. -/
theorem ofIssues_negativeIssues {c : Coordinate} (h : ∀ f, WithinLimit (c.get f)) :
    Reply.ofIssues (Submission.negativeIssues c)
      = .quiet 422 (.issues (Submission.negativeIssues c)) := by
  have hreport : Json.IsExact 4 (report (Submission.negativeIssues c)) := by
    refine .record [("detail", .list ((Submission.negativeIssues c).map reported))] (by simp) ?_
    intro field hfield
    rw [List.mem_singleton.mp hfield]
    refine .list fun item hitem => ?_
    obtain ⟨issue, hissue, rfl⟩ := List.mem_map.mp hitem
    obtain ⟨f, -, rfl⟩ := List.mem_map.mp hissue
    exact isExact_reported (h f)
  exact Reply.send_of_isExact (.issues (Submission.negativeIssues c)) hreport 422 []

/-! ## Requests -/

/-- The request posts the value to the path, as JSON and from a local client. -/
structure Request.Posts (r : Request) (path : String) (v : Json) : Prop where
  method : r.method = "POST"
  path : r.path = path
  isLocal : r.remoteHost? = none
  declared : r.declaresJson = true
  body : ∃ layout, r.body = (v.write layout).toString

/-- A body that is declared as JSON is the value that its text is read as. -/
theorem readBody_of_readPoints {r : Request} {t : LooseText} {v : Json}
    (hbody : r.body.isEmpty = false) (hdeclared : r.declaresJson = true)
    (hdecoded : Json.decode? r.body = some t)
    (hread : Json.readPoints nestingLimit t.points = .ok v) : readBody r = .ok v := by
  rw [readBody, hbody, hdeclared, hdecoded]
  simp only [hread]
  rfl

/-- An exact value that is posted is read back. -/
theorem readBody_of_posts {r : Request} {path : String} {v : Json} (h : r.Posts path v)
    (hv : v.IsExact nestingLimit) : readBody r = .ok v := by
  obtain ⟨layout, hbody⟩ := h.body
  refine readBody_of_readPoints ?_ h.declared ?_ (hv.readPoints_write layout)
  · rw [hbody, hv.isEmpty_write layout]
  · rw [hbody, hv.decode?_write layout]

/-- The reply to a posted value: that of the domain if it is a submission, and its issues if not. -/
theorem handle_of_posts {r : Request} {v : Json} (h : r.Posts "/api/derive" v)
    (hv : v.IsExact nestingLimit) (s : Schedule) :
    handle s r = match Submission.ofJson v with
      | .ok x => replyDerivation r (derive s x.coordinate x.subsidy)
      | .error found => .ofIssues found := by
  have hroute : Route.ofPath? "/api/derive" = some .derive := rfl
  rw [handle, h.isLocal]
  simp only [serveLocal, h.path, hroute, h.method, Route.method, if_true, serve, readSubmission,
    readBody_of_posts h hv]
  cases Submission.ofJson v <;> rfl

/-- The reply to a submission without a negative field is that of the domain. -/
theorem handle_of_posts_nonneg {r : Request} {x : Submission} (h : r.Posts "/api/derive" x.toJson)
    (hlimit : x.KeepsToLimit) (hnonneg : ∀ f, 0 ≤ x.coordinate.get f) (s : Schedule) :
    handle s r = replyDerivation r (derive s x.coordinate x.subsidy) := by
  rw [handle_of_posts h (Submission.isExact_toJson hlimit _), Submission.ofJson_toJson hnonneg]

/-- The reply to a submission with a negative field reports all of them, whatever the schedule. -/
theorem handle_of_posts_negative {r : Request} {x : Submission}
    (h : r.Posts "/api/derive" x.toJson) (hlimit : x.KeepsToLimit) {f : Coordinate.Field}
    (hnegative : x.coordinate.get f < 0) (s : Schedule) :
    handle s r = .quiet 422 (.issues (Submission.negativeIssues x.coordinate)) := by
  rw [handle_of_posts h (Submission.isExact_toJson hlimit _),
    Submission.ofJson_toJson_negative hnegative]
  exact ofIssues_negativeIssues hlimit.1

end Service

end SatRarity
