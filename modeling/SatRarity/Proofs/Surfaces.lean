import SatRarity.Proofs.Occurrence
import SatRarity.Proofs.Posting
import SatRarity.Proofs.Variables

set_option autoImplicit false

/-! # The command line and the service derive the same

A derivation is asked for on the command line by options that are written out, and from the service
by a record that is posted. The two have front ends of their own: the command line looks at the
epoch before it looks at the subsidy, the service turns negative fields away before it reaches the
domain. Under the same schedule they accept the same submissions with the same record, and reject
the others with the same message as long as no field is negative; `sameDerivation_call_handle` says
all of it.

Whatever is read keeps to the limit of numerals, and so does the schedule that is made of it,
`withinLimit_of_mergedSchedule`. So every record and every message can be written.
-/

namespace SatRarity

open CommandLine Service Text

/-! ## The command line -/

namespace CommandLine

/-- What a call of the command line leaves behind. -/
def call (env : Environment) (args : List String) : Transcript := (run env args).transcript .called

/-- The call prints the record of the derivation. -/
def Transcript.Prints (t : Transcript) (d : Derivation) : Prop :=
  t.status = .returned 0 ∧ t.stdout = d.toJson.indented ++ "\n"

/-- The call rejects a derivation with the message. -/
def Transcript.Rejects (t : Transcript) (message : String) : Prop :=
  t = {
    status := .returned 2
    stdout := ""
    stderr := "WARNING operator_cli.cli: rejected derive command: " ++ message ++ "\n"
      ++ "ERROR: " ++ message ++ "\n" }

/-- Where all values are integers, no check breaks off. -/
theorem failure_ofCoordinate (c : Coordinate) (subsidy : Option Int) (reason : Rejection) :
    (Draft.ofCoordinate c subsidy).failure reason = .rejected reason := by
  unfold Draft.failure
  split
  · rename_i f
    cases f <;> rfl
  · cases subsidy <;> rfl
  · rfl

/-- What is raised about integers rejects them, or cannot be written. -/
def Failure.ofRaised : Raised Rejection → Failure
  | .stated reason => .rejected reason
  | .unwritable => .unwritable

/-- The derivation of integers under a schedule: the epoch is looked at first. -/
theorem deriveUnder_ofCoordinate {env : Environment} {overrides : Overrides} {s : Schedule}
    (h : mergedSchedule env overrides = .ok s) (c : Coordinate) (subsidy : Option Int) :
    deriveUnder env overrides (.ofCoordinate c subsidy)
      = if c.epoch < 0 then .error (.rejected (.coordinate (.negative .epoch)))
        else (derive s c subsidy).mapError Failure.ofRaised := by
  have hfailure : (Draft.ofCoordinate c subsidy).failureOf = Failure.ofRaised := by
    funext raised
    cases raised with
    | stated reason => exact failure_ofCoordinate c subsidy reason
    | unwritable => rfl
  rw [deriveUnder, h]
  simp only [Draft.coordinate_ofCoordinate, Draft.subsidy?_ofCoordinate, hfailure,
    failure_ofCoordinate]

/-- How a run ends that asks for a derivation with the given result. -/
def Outcome.ofDerivation (verbose : Bool) :
    Except (Raised Rejection) Derivation → Outcome
  | .ok d => match d.report? with
    | some line => .answered d.toJson.indented (if verbose then some line else none)
    | none => .unwritable
  | .error (.stated reason) => .rejected .derive reason
  | .error .unwritable => .unwritable

/-- How a run ends that asks for a derivation by options that are written out. -/
theorem run_derive {env : Environment} {program options : List Occurrence} {s : Schedule}
    {x : Submission} (hprogram : ∀ o ∈ program, o.IsOf .program)
    (hoptions : ∀ o ∈ options, o.IsOf (.command .derive))
    (hfields : ∀ f, Occurrence.last? (.field f) options = some (x.coordinate.get f))
    (hsubsidy : Occurrence.last? .subsidy options = x.subsidy)
    (hschedule : mergedSchedule env (Occurrence.overrides program) = .ok s) :
    run env (deriveArgs program options)
      = if x.coordinate.epoch < 0 then .rejected .derive (.coordinate (.negative .epoch))
        else .ofDerivation (program.contains .verbose) (derive s x.coordinate x.subsidy) := by
  simp only [run, read_derive hprogram hoptions hfields, Invocation.answer, hsubsidy,
    deriveUnder_ofCoordinate hschedule, bind, Except.bind]
  by_cases hepoch : x.coordinate.epoch < 0
  · simp only [if_pos hepoch]
    rfl
  · simp only [if_neg hepoch]
    cases derive s x.coordinate x.subsidy with
    | ok d =>
        simp only [Except.mapError, Outcome.ofDerivation]
        cases d.report? <;> rfl
    | error raised => cases raised <;> rfl

theorem Outcome.ofDerivation_of_keepsToLimit {d : Derivation} (h : d.KeepsToLimit)
    (verbose : Bool) :
    ∃ report, Outcome.ofDerivation verbose (.ok d) = .answered d.toJson.indented report := by
  rw [Outcome.ofDerivation, Derivation.report?, if_pos h]
  exact ⟨_, rfl⟩

theorem rejects_transcript (reason : Rejection) :
    ((Outcome.rejected .derive reason).transcript .called).Rejects reason.message := by
  have hprefix : "WARNING " ++ Entry.called.logger ++ ": rejected " ++ Command.derive.name
      ++ " command: " = "WARNING operator_cli.cli: rejected derive command: " := by decide
  rw [Transcript.Rejects, Outcome.transcript, hprefix]
  rfl

theorem Transcript.Rejects.status_ne {t : Transcript} {message : String} (h : t.Rejects message) :
    t.status ≠ .returned 0 := by
  rw [Transcript.Rejects] at h
  rw [h]
  exact fun hstatus => absurd (Status.returned.inj hstatus) (by decide)

theorem withinLimit_getD {given : Given} {standIn : Int}
    (h : ∀ n, given = .integer n → WithinLimit n) (hstandIn : WithinLimit standIn) :
    WithinLimit (given.getD standIn) := by
  cases given with
  | integer n => exact h n rfl
  | empty => exact hstandIn

/-- A merged schedule keeps to the limit if what replaces its parameters does. -/
theorem withinLimit_of_mergedSchedule {env : Environment} {overrides : Overrides} {s : Schedule}
    (h : mergedSchedule env overrides = .ok s)
    (hoverrides : ∀ k n, overrides k = some (.integer n) → WithinLimit n)
    (k : Schedule.Parameter) : WithinLimit (s.parameters.get k) := by
  unfold mergedSchedule at h
  split at h
  case h_1 => cases h
  case h_2 base henv =>
    split at h
    case h_1 s' hmerged =>
      obtain rfl := Except.ok.inj h
      rw [Schedule.ofParameters_eq_ok_iff.mp hmerged, Overrides.apply,
        Schedule.Parameters.get_ofFun]
      split
      case h_1 given hgiven =>
        exact withinLimit_getD (fun n hn => hoverrides k n (hn ▸ hgiven)) (by decide)
      case h_2 => exact Schedule.withinLimit_of_ofEnvironment henv k
    all_goals cases h

/-- Options of the program keep to the limit, and so does the schedule that they make. -/
theorem withinLimit_of_overrides {env : Environment} {program : List Occurrence} {s : Schedule}
    (hprogram : ∀ o ∈ program, o.IsOf .program)
    (h : mergedSchedule env (Occurrence.overrides program) = .ok s) (k : Schedule.Parameter) :
    WithinLimit (s.parameters.get k) := by
  refine withinLimit_of_mergedSchedule h (fun k n hn => ?_) k
  obtain ⟨m, hlast, hm⟩ := Option.map_eq_some_iff.mp hn
  obtain rfl := Given.integer.inj hm
  obtain ⟨attached, hmem⟩ := Occurrence.exists_of_last? hlast
  exact (hprogram _ hmem).2.2

/-- The occurrences of options within the limit give a submission within the limit. -/
theorem keepsToLimit_of_last? {options : List Occurrence} {x : Submission}
    (hoptions : ∀ o ∈ options, o.IsOf (.command .derive))
    (hfields : ∀ f, Occurrence.last? (.field f) options = some (x.coordinate.get f))
    (hsubsidy : Occurrence.last? .subsidy options = x.subsidy) : x.KeepsToLimit := by
  have hlimit : ∀ (k : Key) (n : Int),
      Occurrence.last? k options = some n → WithinLimit n := by
    intro k n hlast
    obtain ⟨attached, hmem⟩ := Occurrence.exists_of_last? hlast
    exact (hoptions _ hmem).2.2
  exact ⟨fun f => hlimit _ _ (hfields f), fun n hn => hlimit .subsidy n (hsubsidy.trans hn)⟩

end CommandLine

/-! ## The service -/

/-- The response has the status and the body, and no further headers. -/
def Service.Reply.Answers (reply : Reply) (status : Nat) (v : Json) : Prop :=
  ∃ body, reply.result = .response (.plain status body) ∧ body.toJson = v

theorem Service.Reply.Answers.status_eq {reply : Reply} {status status' : Nat} {v v' : Json}
    (h : reply.Answers status v) (h' : reply.Answers status' v') : status = status' := by
  obtain ⟨body, hresult, -⟩ := h
  obtain ⟨body', hresult', -⟩ := h'
  have hresponse : Response.plain status body = .plain status' body' :=
    Result.response.inj (hresult.symm.trans hresult')
  exact congrArg Response.status hresponse

/-! ## Both -/

/-- A call of the command line and a reply of the service say the same about a submission under a
schedule. -/
structure SameDerivation (s : Schedule) (x : Submission) (t : Transcript) (reply : Reply) :
    Prop where
  /-- Without a negative field both give the same record, or the same message. -/
  nonneg : (∀ f, 0 ≤ x.coordinate.get f) →
    (t.Prints (x.derivation s) ∧ reply.Answers 200 (x.derivation s).toJson)
      ∨ ∃ message : String, t.Rejects message
          ∧ reply.Answers 400 (.object [("error", .text message)])
  /-- With a negative field the call names the first one, and the service reports them all. -/
  negative : ∀ f, x.coordinate.firstNegative? = some f →
    t.Rejects (f.name ++ " cannot be negative.")
      ∧ reply = .quiet 422 (.issues (Submission.negativeIssues x.coordinate))
  /-- The call succeeds for places and for nothing else. -/
  returned : t.status = .returned 0 ↔ x.IsPlace s
  /-- The service answers places and nothing else. -/
  answered : (∃ v, reply.Answers 200 v) ↔ x.IsPlace s

namespace SameDerivation

variable {s : Schedule} {x : Submission} {t : Transcript} {reply : Reply}

theorem of_isPlace (hplace : x.IsPlace s) (hprints : t.Prints (x.derivation s))
    (hanswers : reply.Answers 200 (x.derivation s).toJson) : SameDerivation s x t reply where
  nonneg := fun _ => Or.inl ⟨hprints, hanswers⟩
  negative := by
    intro f hf
    have hnegative := Coordinate.negative_of_firstNegative? hf
    exact absurd (hplace.1 f) (Int.not_le.mpr hnegative)
  returned := ⟨fun _ => hplace, fun _ => hprints.1⟩
  answered := ⟨fun _ => hplace, fun _ => ⟨_, hanswers⟩⟩

/-- Both reject what is no place, with the same message if no field is negative. -/
theorem of_rejected (hplace : ¬ x.IsPlace s) (hnonneg : ∀ f, 0 ≤ x.coordinate.get f)
    {message : String} (hrejects : t.Rejects message)
    (hanswers : reply.Answers 400 (.object [("error", .text message)])) :
    SameDerivation s x t reply where
  nonneg := fun _ => Or.inr ⟨message, hrejects, hanswers⟩
  negative := by
    intro f hf
    have hnegative := Coordinate.negative_of_firstNegative? hf
    exact absurd (hnonneg f) (Int.not_le.mpr hnegative)
  returned := ⟨fun h => absurd h hrejects.status_ne, fun h => absurd h hplace⟩
  answered := by
    refine ⟨fun ⟨v, hv⟩ => ?_, fun h => absurd h hplace⟩
    exact absurd (hanswers.status_eq hv) (by decide)

/-- Both reject a negative field, each in its own way. -/
theorem of_negative {f : Coordinate.Field} (hfirst : x.coordinate.firstNegative? = some f)
    (hrejects : t.Rejects (f.name ++ " cannot be negative."))
    (hreply : reply = .quiet 422 (.issues (Submission.negativeIssues x.coordinate))) :
    SameDerivation s x t reply := by
  have hnegative := Coordinate.negative_of_firstNegative? hfirst
  have hplace : ¬ x.IsPlace s := fun h => absurd (h.1 f) (Int.not_le.mpr hnegative)
  have hanswers : reply.Answers 422 (Body.issues (Submission.negativeIssues x.coordinate)).toJson :=
    ⟨_, by rw [hreply]; rfl, rfl⟩
  refine ⟨?_, ?_, ?_, ?_⟩
  · intro hnonneg
    exact absurd (hnonneg f) (Int.not_le.mpr hnegative)
  · intro f' hf'
    rw [Option.some.inj (hf'.symm.trans hfirst)]
    exact ⟨hrejects, hreply⟩
  · exact ⟨fun h => absurd h hrejects.status_ne, fun h => absurd h hplace⟩
  · refine ⟨fun ⟨v, hv⟩ => ?_, fun h => absurd h hplace⟩
    exact absurd (hanswers.status_eq hv) (by decide)

end SameDerivation

/-- Under one schedule, options that give the fields and the subsidy of a submission and a request
that posts it are answered alike. The options may be written in any order and any number of times;
the schedule may come from the environment or from options of the program. -/
theorem sameDerivation_call_handle {env : Environment} {program options : List Occurrence}
    {s : Schedule} {x : Submission} {r : Service.Request}
    (hprogram : ∀ o ∈ program, o.IsOf .program)
    (hoptions : ∀ o ∈ options, o.IsOf (.command .derive))
    (hfields : ∀ f, Occurrence.last? (.field f) options = some (x.coordinate.get f))
    (hsubsidy : Occurrence.last? .subsidy options = x.subsidy)
    (hschedule : mergedSchedule env (Occurrence.overrides program) = .ok s)
    (hpost : r.Posts "/api/derive" x.toJson) :
    SameDerivation s x (call env (deriveArgs program options)) (handle s r) := by
  have hlimit := keepsToLimit_of_last? hoptions hfields hsubsidy
  have hrun := run_derive hprogram hoptions hfields hsubsidy hschedule
  cases hfirst : x.coordinate.firstNegative? with
  | some f =>
      have hnegative := Coordinate.negative_of_firstNegative? hfirst
      -- the epoch has a check of its own; any other negative field is found by the validation
      have hrejected : run env (deriveArgs program options)
          = .rejected .derive (.coordinate (.negative f)) := by
        rw [hrun]
        by_cases hepoch : f = .epoch
        · subst hepoch
          exact if_pos hnegative
        · have hnonneg := Coordinate.epoch_nonneg_of_firstNegative? hfirst hepoch
          rw [if_neg (Int.not_lt.mpr hnonneg), Submission.derive_of_epoch_nonneg hnonneg,
            Coordinate.validate_negative hfirst]
          rfl
      refine .of_negative hfirst ?_ (handle_of_posts_negative hpost hlimit hnegative s)
      rw [call, hrejected]
      exact rejects_transcript (.coordinate (.negative f))
  | none =>
      have hnonneg := Coordinate.firstNegative?_eq_none_iff.mp hfirst
      have hepoch : ¬ x.coordinate.epoch < 0 := Int.not_lt.mpr (hnonneg .epoch)
      have hreply := handle_of_posts_nonneg hpost hlimit hnonneg s
      rw [if_neg hepoch] at hrun
      by_cases hplace : x.IsPlace s
      · have hderive := Submission.derive_of_isPlace hplace
        have hderivation : (x.derivation s).KeepsToLimit :=
          Submission.keepsToLimit_derivation (withinLimit_of_overrides hprogram hschedule) hlimit
        rw [hderive] at hrun hreply
        rw [replyDerivation_of_keepsToLimit hderivation] at hreply
        refine .of_isPlace hplace ?_ ⟨_, by rw [hreply], rfl⟩
        obtain ⟨report, hanswered⟩ := Outcome.ofDerivation_of_keepsToLimit hderivation _
        rw [call, hrun, hanswered]
        exact ⟨rfl, rfl⟩
      · have hposition := hlimit.1 .subsidyPosition
        obtain ⟨e, -, hderive⟩ :=
          Submission.exists_derive_of_not_isPlace hplace (hnonneg .epoch) hposition
        rw [hderive] at hrun hreply
        have hrejects : (call env (deriveArgs program options)).Rejects e.message := by
          rw [call, hrun]
          exact rejects_transcript (.coordinate e)
        exact .of_rejected hplace hnonneg hrejects ⟨_, by rw [hreply]; rfl, rfl⟩

/-- The first sat of the second era, with the options in both spellings and one of them repeated. -/
theorem sameDerivation_call_handle_second_era :
    SameDerivation .standard ⟨⟨1, 0, 336, 0⟩, none⟩
      (call (fun _ => none)
        (deriveArgs [.verbose]
          [.value (.field .epoch) 7 true, .value (.field .epochPosition) 0 false,
            .value (.field .periodPosition) 336 true, .value (.field .subsidyPosition) 0 false,
            .value (.field .epoch) 1 false]))
      (handle .standard {
        method := "POST"
        path := "/api/derive"
        query := ""
        body := "\x7b\"epoch\":1,\"epoch_position\":0,\"period_position\":336,"
          ++ "\"subsidy_position\":0\x7d"
        contentType := some "application/json"
        client := some "127.0.0.1" }) :=
  sameDerivation_call_handle (by decide) (by decide) (by intro f; cases f <;> rfl) rfl rfl
    ⟨rfl, rfl, rfl, rfl, .compact, by decide⟩

end SatRarity
