import SatRarity.Proofs.Provenance
import SatRarity.Proofs.Surfaces

set_option autoImplicit false

/-! # How a call ends

A call of the command line answers, rejects its command, reports a misuse or shows help, and what
it writes is determined by that: an answer stands alone on the standard output, and a call that
fails prints none. `call_ends_iff` says that every call ends in exactly one of these ways but for
one case, in which it breaks off.

A derivation compares the parameters of the schedule, then the fields of the coordinate, then the
subsidy, each with the least integer that it admits, and fails at the first value that is less. An
empty list is no integer, so the comparison with it has no answer: the call breaks off just if the
first value that is not admitted is an empty list, `deriveUnder_eq_incomparable_iff`. A value that
is never looked at does no harm, and none does if the environment makes no schedule.

A message or an answer that needs an integer of too many digits would break a call off as well, but
no call comes to one: all its integers were read, or are not above one that was,
`answer_ne_unwritable`.
-/

namespace SatRarity.CommandLine

/-! ## Comparisons with empty lists -/

/-- The value is an integer and not below the bound. -/
def Given.isAtLeast (bound : Int) : Given → Bool
  | integer n => bound ≤ n
  | empty => false

/-- What a derivation compares, in this order, and the least integer that it admits for each: the
parameters, the fields, and the subsidy if it is given. -/
def comparisons (base : Schedule) (overrides : Overrides) (d : Draft) : List (Given × Int) :=
  (Schedule.Parameter.all.map fun k => ((overrides k).getD (.integer (base.parameters.get k)), 1))
    ++ (Coordinate.Field.all.map fun f => (d.get f, 0))
    ++ d.subsidy.toList.map fun given => (given, 1)

/-- The first value that a derivation does not admit. -/
def firstRefused? (base : Schedule) (overrides : Overrides) (d : Draft) : Option Given :=
  ((comparisons base overrides d).find? fun c => !c.1.isAtLeast c.2).map Prod.fst

/-- A refused empty list is one of the values that are given. -/
theorem mem_of_firstRefused? {base : Schedule} {overrides : Overrides} {d : Draft}
    (h : firstRefused? base overrides d = some .empty) :
    (∃ k, overrides k = some .empty) ∨ d.Gives .empty := by
  obtain ⟨c, hfind, hempty⟩ := Option.map_eq_some_iff.mp h
  have hmem := List.mem_of_find?_eq_some hfind
  rw [comparisons, List.mem_append, List.mem_append] at hmem
  rcases hmem with (hparameter | hfield) | hsubsidy
  · obtain ⟨k, -, rfl⟩ := List.mem_map.mp hparameter
    refine Or.inl ⟨k, ?_⟩
    cases hk : overrides k with
    | none => simp [hk] at hempty
    | some given =>
        rw [hk] at hempty
        exact congrArg some hempty
  · obtain ⟨f, -, rfl⟩ := List.mem_map.mp hfield
    exact Or.inr (Or.inl ⟨f, hempty⟩)
  · obtain ⟨given, hgiven, rfl⟩ := List.mem_map.mp hsubsidy
    exact Or.inr (Or.inr ((Option.mem_toList.mp hgiven).trans (congrArg some hempty)))

/-- Any integer below the bound can stand in for an empty list. -/
theorem not_isAtLeast_eq {bound standIn : Int} (h : standIn < bound) (given : Given) :
    (!given.isAtLeast bound) = decide (given.getD standIn < bound) := by
  cases given with
  | integer n =>
      rw [Given.isAtLeast, Given.getD_integer, ← decide_not, decide_eq_decide]
      exact Int.not_le
  | empty => exact (decide_eq_true h).symm

/-- A check that an integer fails breaks off just if it is of an empty list. -/
theorem ofCheck_eq_incomparable_iff {given : Option Given} {c : Comparison} {reason : Rejection} :
    (∃ e, Failure.ofCheck given c reason = .incomparable e) ↔ given = some .empty := by
  cases given with
  | none => simp [Failure.ofCheck]
  | some given => cases given <;> simp [Failure.ofCheck]

/-- The first refused among the parameters is the first that is not positive when merged. -/
theorem find?_parameters (base : Schedule) (overrides : Overrides) :
    (Schedule.Parameter.all.map fun k =>
        ((overrides k).getD (.integer (base.parameters.get k)), (1 : Int))).find?
        (fun c => !c.1.isAtLeast c.2)
      = (overrides.apply base.parameters).firstNotPositive?.map
          fun k => ((overrides k).getD (.integer (base.parameters.get k)), 1) := by
  rw [List.find?_map, Schedule.Parameters.firstNotPositive?]
  congr 2
  funext k
  have hstandIn : (0 : Int) < 1 := by decide
  have hpositive : ∀ n : Int, n < 1 ↔ n ≤ 0 := by
    intro n
    omega
  simp only [Function.comp_apply, not_isAtLeast_eq hstandIn, Overrides.apply,
    Schedule.Parameters.get_ofFun, decide_eq_decide]
  cases overrides k <;> exact hpositive _

theorem find?_fields (d : Draft) :
    (Coordinate.Field.all.map fun f => (d.get f, (0 : Int))).find? (fun c => !c.1.isAtLeast c.2)
      = d.coordinate.firstNegative?.map fun f => (d.get f, 0) := by
  rw [List.find?_map, Coordinate.firstNegative?]
  congr 2
  funext f
  have hstandIn : (-1 : Int) < 0 := by decide
  simp only [Function.comp_apply, not_isAtLeast_eq hstandIn, Draft.coordinate,
    Coordinate.get_ofFun]

/-- Where a merged parameter is not positive, the first such one is what is refused. -/
theorem firstRefused?_of_parameter {base : Schedule} {overrides : Overrides}
    {k : Schedule.Parameter} (h : (overrides.apply base.parameters).firstNotPositive? = some k)
    (d : Draft) :
    firstRefused? base overrides d
      = some ((overrides k).getD (.integer (base.parameters.get k))) := by
  rw [firstRefused?, comparisons, List.append_assoc, List.find?_append, find?_parameters, h]
  rfl

/-- Where all merged parameters are positive, the draft is looked at. -/
theorem firstRefused?_of_draft {base : Schedule} {overrides : Overrides}
    (h : (overrides.apply base.parameters).firstNotPositive? = none) (d : Draft) :
    firstRefused? base overrides d
      = match d.coordinate.firstNegative? with
        | some f => some (d.get f)
        | none => d.subsidy.filter fun given => !given.isAtLeast 1 := by
  rw [firstRefused?, comparisons, List.append_assoc, List.find?_append, find?_parameters, h,
    List.find?_append, find?_fields]
  cases d.coordinate.firstNegative? with
  | some f => rfl
  | none =>
      cases d.subsidy with
      | none => rfl
      | some given =>
          cases hgiven : given.isAtLeast 1 <;> simp [Option.filter, hgiven]

/-- A draft with a negative field fails at the first one: the epoch has a check of its own, any
other field is found by the validation. -/
theorem deriveUnder_of_negative {env : Environment} {overrides : Overrides} {s : Schedule}
    (h : mergedSchedule env overrides = .ok s) {d : Draft} {f : Coordinate.Field}
    (hfirst : d.coordinate.firstNegative? = some f) :
    deriveUnder env overrides d = .error (d.failure (.coordinate (.negative f))) := by
  rw [deriveUnder, h]
  by_cases hepoch : f = .epoch
  · subst hepoch
    exact if_pos (Coordinate.negative_of_firstNegative? hfirst)
  · have hnonneg := Coordinate.epoch_nonneg_of_firstNegative? hfirst hepoch
    have hderive := Submission.derive_of_epoch_nonneg (x := ⟨d.coordinate, d.subsidy?⟩) hnonneg s
    rw [Coordinate.validate_negative hfirst] at hderive
    simp only [if_neg (Int.not_lt.mpr hnonneg), hderive]
    rfl

/-- A draft without a negative field is validated against its subsidy. -/
theorem deriveUnder_of_nonneg {env : Environment} {overrides : Overrides} {s : Schedule}
    (h : mergedSchedule env overrides = .ok s) {d : Draft}
    (hnonneg : ∀ f, 0 ≤ d.coordinate.get f) :
    deriveUnder env overrides d
      = match d.coordinate.validate (Submission.subsidyIn s ⟨d.coordinate, d.subsidy?⟩) with
        | .ok () => .ok (Submission.derivation s ⟨d.coordinate, d.subsidy?⟩)
        | .error raised => .error (d.failureOf (raised.map .coordinate)) := by
  have hepoch : 0 ≤ d.coordinate.epoch := hnonneg .epoch
  have hderive := Submission.derive_of_epoch_nonneg (x := ⟨d.coordinate, d.subsidy?⟩) hepoch s
  rw [deriveUnder, h]
  simp only [if_neg (Int.not_lt.mpr hepoch), hderive]
  cases d.coordinate.validate (Submission.subsidyIn s ⟨d.coordinate, d.subsidy?⟩) <;> rfl

theorem mergedSchedule_of_not_pos {env : Environment} {overrides : Overrides} {base : Schedule}
    (henv : Schedule.ofEnvironment env = .ok base) {k : Schedule.Parameter}
    (h : (overrides.apply base.parameters).firstNotPositive? = some k) :
    mergedSchedule env overrides
      = .error (.ofCheck (overrides k) .le (.schedule (.notPositive k))) := by
  rw [mergedSchedule, henv]
  simp only [Schedule.ofParameters_of_not_pos h]

theorem exists_mergedSchedule {env : Environment} {overrides : Overrides} {base : Schedule}
    (henv : Schedule.ofEnvironment env = .ok base)
    (h : (overrides.apply base.parameters).firstNotPositive? = none) :
    ∃ s, mergedSchedule env overrides = .ok s := by
  obtain ⟨s, hs⟩ :=
    Schedule.exists_ofParameters (Schedule.Parameters.firstNotPositive?_eq_none_iff.mp h)
  exact ⟨s, by rw [mergedSchedule, henv]; simp only [hs]⟩

/-- Where no field is negative, only an empty list in place of the subsidy breaks off. -/
theorem deriveUnder_eq_incomparable_iff_of_nonneg {env : Environment} {overrides : Overrides}
    {s : Schedule} (h : mergedSchedule env overrides = .ok s) {d : Draft}
    (hnonneg : ∀ f, 0 ≤ d.coordinate.get f) :
    (∃ e, deriveUnder env overrides d = .error (.incomparable e)) ↔ d.subsidy = some .empty := by
  rw [deriveUnder_of_nonneg h hnonneg, Coordinate.validate_nonneg hnonneg]
  by_cases hsubsidy : d.subsidy = some .empty
  · -- the stand-in of the empty list is not positive
    have hzero : Submission.subsidyIn s ⟨d.coordinate, d.subsidy?⟩ = 0 := by
      rw [Submission.subsidyIn, Draft.subsidy?, hsubsidy]
      rfl
    rw [hzero, if_pos (Int.le_refl 0)]
    simp [Raised.map, Draft.failureOf, Draft.failure, hsubsidy, Failure.ofCheck]
  · have hrejected : ∀ reason, Failure.ofCheck d.subsidy .le reason = .rejected reason := by
      intro reason
      cases hgiven : d.subsidy with
      | none => rfl
      | some given =>
          cases given with
          | integer n => rfl
          | empty => exact absurd hgiven hsubsidy
    refine iff_of_false ?_ hsubsidy
    rintro ⟨e, he⟩
    by_cases hpos : Submission.subsidyIn s ⟨d.coordinate, d.subsidy?⟩ ≤ 0
    · simp [if_pos hpos, Raised.map, Draft.failureOf, Draft.failure, hrejected] at he
    · rw [if_neg hpos] at he
      split at he
      case h_1 => cases he
      case h_2 houtside =>
        split at houtside
        · obtain rfl := Except.error.inj houtside
          unfold Coordinate.Error.raised at he
          split at he <;> cases he
        · cases houtside

/-- A derivation breaks off just if the first value that it does not admit is an empty list. -/
theorem deriveUnder_eq_incomparable_iff {env : Environment} {overrides : Overrides} {d : Draft} :
    (∃ e, deriveUnder env overrides d = .error (.incomparable e))
      ↔ ∃ base, Schedule.ofEnvironment env = .ok base
          ∧ firstRefused? base overrides d = some .empty := by
  cases henv : Schedule.ofEnvironment env with
  | error e => simp [deriveUnder, mergedSchedule, henv]
  | ok base =>
      simp only [Except.ok.injEq, exists_eq_left']
      -- the checks in their order: the parameters, the fields, the subsidy
      cases hparameter : (overrides.apply base.parameters).firstNotPositive? with
      | some k =>
          rw [firstRefused?_of_parameter hparameter, deriveUnder,
            mergedSchedule_of_not_pos henv hparameter]
          simp only [Except.error.injEq, ofCheck_eq_incomparable_iff]
          cases overrides k <;> simp
      | none =>
          obtain ⟨s, hmerged⟩ := exists_mergedSchedule henv hparameter
          rw [firstRefused?_of_draft hparameter]
          cases hfirst : d.coordinate.firstNegative? with
          | some f =>
              rw [deriveUnder_of_negative hmerged hfirst]
              simp only [Except.error.injEq, Draft.failure, ofCheck_eq_incomparable_iff]
          | none =>
              rw [deriveUnder_eq_incomparable_iff_of_nonneg hmerged
                (Coordinate.firstNegative?_eq_none_iff.mp hfirst)]
              cases d.subsidy with
              | none => simp
              | some given => cases given <;> simp [Option.filter, Given.isAtLeast]

/-! ## Answers -/

/-- The invocation has no answer because a comparison has none just if it asks for a derivation
whose first refused value is an empty list. -/
theorem answer_eq_incomparable_iff {env : Environment} {inv : Invocation} :
    (∃ e, inv.answer env = .error (.incomparable e))
      ↔ ∃ d base, inv.request = .derive d ∧ Schedule.ofEnvironment env = .ok base
          ∧ firstRefused? base inv.overrides d = some .empty := by
  rw [Invocation.answer]
  cases inv.request with
  | parse name => cases hname : Tier.ofName name <;> simp [hname]
  | code value => cases hvalue : Tier.ofCode value <;> simp [hvalue]
  | tiers => simp
  | derive d =>
      have hderive := @deriveUnder_eq_incomparable_iff env inv.overrides d
      simp only [Request.derive.injEq, exists_and_left, exists_eq_left', ← hderive]
      cases deriveUnder env inv.overrides d with
      | error failure => simp [bind, Except.bind]
      | ok derivation => cases hreport : derivation.report? <;> simp [bind, Except.bind, hreport]

/-- An answer comes with the report of the derivation that was asked for, or with none if none
was. -/
theorem answer_eq_ok {env : Environment} {inv : Invocation} {a : Answer}
    (h : inv.answer env = .ok a) :
    (∃ d derivation line, inv.request = .derive d
        ∧ deriveUnder env inv.overrides d = .ok derivation ∧ derivation.report? = some line
        ∧ a.report = some line)
      ∨ (inv.request.command ≠ .derive ∧ a.report = none) := by
  rw [Invocation.answer] at h
  cases hrequest : inv.request with
  | derive d =>
      rw [hrequest] at h
      obtain ⟨derivation, hderive, h⟩ := bind_eq_ok_iff.mp h
      split at h
      case h_1 line hline =>
        exact Or.inl ⟨d, derivation, line, rfl, hderive, hline, by rw [← Except.ok.inj h]⟩
      case h_2 => cases h
  | tiers =>
      rw [hrequest] at h
      exact Or.inr ⟨by simp [Request.command], by rw [← Except.ok.inj h]⟩
  | parse name =>
      rw [hrequest] at h
      dsimp only at h
      split at h
      · exact Or.inr ⟨by simp [Request.command], by rw [← Except.ok.inj h]⟩
      · cases h
  | code value =>
      rw [hrequest] at h
      dsimp only at h
      split at h
      · exact Or.inr ⟨by simp [Request.command], by rw [← Except.ok.inj h]⟩
      · cases h

/-! ## Integers of an answer -/

theorem ofCheck_ne_unwritable (given : Option Given) (c : Comparison) (reason : Rejection) :
    Failure.ofCheck given c reason ≠ .unwritable := by
  unfold Failure.ofCheck
  split <;> exact nofun

theorem failure_ne_unwritable (d : Draft) (reason : Rejection) :
    d.failure reason ≠ .unwritable := by
  unfold Draft.failure
  split
  · exact ofCheck_ne_unwritable _ _ _
  · exact ofCheck_ne_unwritable _ _ _
  · exact nofun

theorem mergedSchedule_ne_unwritable (env : Environment) (overrides : Overrides) :
    mergedSchedule env overrides ≠ .error .unwritable := by
  unfold mergedSchedule
  split
  case h_1 => exact nofun
  case h_2 =>
    split
    · exact nofun
    · exact fun h => ofCheck_ne_unwritable _ _ _ (Except.error.inj h)
    · exact nofun

section Limit

variable {env : Environment} {args : List String} {inv : Invocation}
  (hread : Invocation.read args = .ok inv) {d : Draft} (hrequest : inv.request = .derive d)

include hread hrequest

theorem keepsToLimit_of_read : Submission.KeepsToLimit ⟨d.coordinate, d.subsidy?⟩ := by
  constructor
  · intro f
    rw [Draft.coordinate, Coordinate.get_ofFun]
    exact withinLimit_getD (fun n hn =>
      withinLimit_of_gives hread (Or.inr ⟨d, hrequest, Or.inl ⟨f, hn⟩⟩)) (by decide)
  · intro n hn
    obtain ⟨given, hgiven, rfl⟩ := Option.map_eq_some_iff.mp hn
    exact withinLimit_getD (fun n hn =>
      withinLimit_of_gives hread (Or.inr ⟨d, hrequest, Or.inr (hn ▸ hgiven)⟩)) (by decide)

theorem deriveUnder_ne_unwritable : deriveUnder env inv.overrides d ≠ .error .unwritable := by
  intro hderive
  unfold deriveUnder at hderive
  split at hderive
  case h_1 hmerged =>
    obtain rfl := Except.error.inj hderive
    exact mergedSchedule_ne_unwritable env inv.overrides hmerged
  case h_2 s hmerged =>
    split at hderive
    · exact failure_ne_unwritable d _ (Except.error.inj hderive)
    · have hlimit := (keepsToLimit_of_read hread hrequest).1 .subsidyPosition
      have hne := Submission.derive_ne_unwritable (x := ⟨d.coordinate, d.subsidy?⟩) hlimit s
      cases hresult : derive s d.coordinate d.subsidy? with
      | ok derivation =>
          rw [hresult] at hderive
          cases hderive
      | error raised =>
          rw [hresult] at hderive
          cases raised with
          | stated reason => exact failure_ne_unwritable d reason (Except.error.inj hderive)
          | unwritable => exact hne hresult

theorem keepsToLimit_of_deriveUnder {derivation : Derivation}
    (h : deriveUnder env inv.overrides d = .ok derivation) : derivation.KeepsToLimit := by
  unfold deriveUnder at h
  split at h
  case h_1 => cases h
  case h_2 s hmerged =>
    have hs := withinLimit_of_mergedSchedule hmerged
      fun k n hk => withinLimit_of_gives hread (Or.inl ⟨k, hk⟩)
    split at h
    · cases h
    · cases hresult : derive s d.coordinate d.subsidy? with
      | error raised =>
          rw [hresult] at h
          cases h
      | ok derivation' =>
          rw [hresult] at h
          obtain rfl := Except.ok.inj h
          obtain ⟨-, rfl⟩ :=
            (Submission.derive_eq_ok_iff (x := ⟨d.coordinate, d.subsidy?⟩)).mp hresult
          exact Submission.keepsToLimit_derivation hs (keepsToLimit_of_read hread hrequest)

end Limit

/-- Every integer of an answer, or of a message, can be written. -/
theorem answer_ne_unwritable {env : Environment} {args : List String} {inv : Invocation}
    (hread : Invocation.read args = .ok inv) : inv.answer env ≠ .error .unwritable := by
  intro h
  rw [Invocation.answer] at h
  cases hrequest : inv.request with
  | derive d =>
      rw [hrequest] at h
      rcases bind_eq_error_iff.mp h with hderive | ⟨derivation, hderive, h⟩
      · exact deriveUnder_ne_unwritable hread hrequest hderive
      · have hlimit := keepsToLimit_of_deriveUnder hread hrequest hderive
        rw [Derivation.report?, if_pos hlimit] at h
        cases h
  | tiers =>
      rw [hrequest] at h
      cases h
  | parse name =>
      rw [hrequest] at h
      dsimp only at h
      split at h <;> cases h
  | code value =>
      rw [hrequest] at h
      dsimp only at h
      split at h <;> cases h

/-! ## Endings -/

/-- How a call is meant to end. -/
inductive Ending
  | answer
  | rejection
  | misuse
  | help

/-- Each ending leaves the call in its own way. -/
def Ending.status : Ending → Status
  | answer => .returned 0
  | rejection => .returned 2
  | misuse => .exited 2
  | help => .exited 0

/-- What a call leaves behind when it ends so. -/
inductive EndsBy (env : Environment) (args : List String) : Ending → Transcript → Prop
  /-- It prints an answer and nothing else. -/
  | answer {inv : Invocation} {text : String} (hread : Invocation.read args = .ok inv)
    (hquiet : ¬ (inv.verbose = true ∧ inv.request.command = .derive)) (htext : text ≠ "") :
    EndsBy env args .answer ⟨.returned 0, text, ""⟩
  /-- It prints an answer, and reports in a single line the derivation that was asked for. -/
  | reported {inv : Invocation} {d : Draft} {derivation : Derivation} {text line : String}
    (hread : Invocation.read args = .ok inv) (hverbose : inv.verbose = true)
    (hrequest : inv.request = .derive d)
    (hderive : deriveUnder env inv.overrides d = .ok derivation) (htext : text ≠ "")
    (hreport : derivation.report? = some line) (hline : '\n' ∉ line.toList) :
    EndsBy env args .answer ⟨.returned 0, text, "DEBUG operator_cli.cli: " ++ line ++ "\n"⟩
  | rejection {inv : Invocation} (hread : Invocation.read args = .ok inv) (message : String) :
    EndsBy env args .rejection
      ⟨.returned 2, "",
        "WARNING operator_cli.cli: rejected " ++ inv.request.command.name ++ " command: " ++ message
          ++ "\n" ++ "ERROR: " ++ message ++ "\n"⟩
  | misuse (level : Level) (message : String) :
    EndsBy env args .misuse
      ⟨.exited 2, "", level.usage ++ level.title ++ ": error: " ++ message ++ "\n"⟩
  | help (level : Level) {arg : String} (harg : arg ∈ args) (hasks : AsksForHelp arg) :
    EndsBy env args .help ⟨.exited 0, level.help, ""⟩

/-- The request is for a derivation, and the first value that this does not admit is an empty
list. -/
def BreaksOff (env : Environment) (args : List String) : Prop :=
  ∃ inv d base, Invocation.read args = .ok inv ∧ inv.request = .derive d
    ∧ Schedule.ofEnvironment env = .ok base ∧ firstRefused? base inv.overrides d = some .empty

theorem EndsBy.status_eq {env : Environment} {args : List String} {ending : Ending}
    {t : Transcript} (h : EndsBy env args ending t) : t.status = ending.status := by
  cases h <;> rfl

theorem Ending.eq_of_status_eq {ending ending' : Ending} (h : ending.status = ending'.status) :
    ending = ending' := by
  cases ending <;> cases ending' <;> first | rfl | cases h

theorem append_newline_ne_empty (text : String) : text ++ "\n" ≠ "" := by
  intro h
  have hlist := congrArg String.toList h
  simp at hlist

/-- A report is a single line. -/
theorem newline_notMem_report {d : Derivation} {line : String} (h : d.report? = some line) :
    '\n' ∉ line.toList := by
  have hinteger : ∀ n : Int, '\n' ∉ (toString n).toList :=
    Text.notMem_toString (by decide) (by decide)
  have hname : '\n' ∉ d.tier.name.toList := by
    cases d.tier <;> decide
  have hdescribed : '\n' ∉ d.coordinate.described.toList := by
    unfold Coordinate.described
    simp only [Coordinate.fields, Coordinate.Field.all, List.map_cons, List.map_nil,
      String.intercalate_cons_cons, String.intercalate_singleton, String.toList_append,
      List.mem_append, hinteger]
    decide
  simp only [Derivation.report?, Option.ite_none_right_eq_some, Option.some.injEq] at h
  obtain ⟨-, rfl⟩ := h
  simp only [String.toList_append, List.mem_append, hinteger, hname, hdescribed]
  decide

section Invocation

variable {env : Environment} {args : List String} {inv : Invocation}
  (hread : Invocation.read args = .ok inv)

include hread in
theorem call_of_answered {a : Answer} (h : inv.answer env = .ok a) :
    call env args = Outcome.transcript .called
      (.answered a.text (if inv.verbose then a.report else none)) := by
  simp only [call, run, hread, h]

include hread in
theorem call_of_rejected {reason : Rejection} (h : inv.answer env = .error (.rejected reason)) :
    call env args = Outcome.transcript .called (.rejected inv.request.command reason) := by
  simp only [call, run, hread, h]

include hread in
theorem call_of_incomparable {e : Incomparable} (h : inv.answer env = .error (.incomparable e)) :
    call env args = ⟨.failed e, "", ""⟩ := by
  simp only [call, run, hread, h, Outcome.transcript]

end Invocation

theorem breaksOff_iff {env : Environment} {args : List String} :
    BreaksOff env args
      ↔ ∃ inv e, Invocation.read args = .ok inv ∧ inv.answer env = .error (.incomparable e) := by
  constructor
  · rintro ⟨inv, d, base, hread, hrequest, henv, hrefused⟩
    obtain ⟨e, he⟩ := answer_eq_incomparable_iff.mpr ⟨d, base, hrequest, henv, hrefused⟩
    exact ⟨inv, e, hread, he⟩
  · rintro ⟨inv, e, hread, he⟩
    obtain ⟨d, base, hrequest, henv, hrefused⟩ := answer_eq_incomparable_iff.mp ⟨e, he⟩
    exact ⟨inv, d, base, hread, hrequest, henv, hrefused⟩

/-- A call with an answer ends by it. -/
theorem endsBy_of_answer {env : Environment} {args : List String} {inv : Invocation} {a : Answer}
    (hread : Invocation.read args = .ok inv) (h : inv.answer env = .ok a) :
    EndsBy env args .answer (call env args) := by
  have htext := append_newline_ne_empty a.text
  have hcall := call_of_answered hread h
  rcases answer_eq_ok h with ⟨d, derivation, line, hrequest, hderive, hreport, ha⟩ | ⟨hcommand, ha⟩
  · cases hverbose : inv.verbose with
    | true =>
        simp only [hverbose, ha, if_true] at hcall
        rw [hcall]
        exact .reported hread hverbose hrequest hderive htext hreport
          (newline_notMem_report hreport)
    | false =>
        simp only [hverbose, Bool.false_eq_true, if_false] at hcall
        rw [hcall]
        exact .answer hread (by simp [hverbose]) htext
  · simp only [ha, ite_self] at hcall
    rw [hcall]
    exact .answer hread (fun hreported => hcommand hreported.2) htext

theorem exists_endsBy_of_not_breaksOff {env : Environment} {args : List String}
    (h : ¬ BreaksOff env args) : ∃ ending, EndsBy env args ending (call env args) := by
  cases hread : Invocation.read args with
  | error stop =>
      cases stop with
      | help level =>
          obtain ⟨arg, harg, hasks⟩ := exists_asksForHelp hread
          refine ⟨.help, ?_⟩
          rw [call, run, hread]
          exact .help level harg hasks
      | misuse level f =>
          refine ⟨.misuse, ?_⟩
          rw [call, run, hread]
          exact .misuse level f.message
  | ok inv =>
      cases hanswer : inv.answer env with
      | ok a => exact ⟨.answer, endsBy_of_answer hread hanswer⟩
      | error failure =>
          cases failure with
          | rejected reason =>
              refine ⟨.rejection, ?_⟩
              rw [call_of_rejected hread hanswer]
              exact .rejection hread reason.message
          | incomparable e => exact absurd (breaksOff_iff.mpr ⟨inv, e, hread, hanswer⟩) h
          | unwritable => exact absurd hanswer (answer_ne_unwritable hread)

/-- A call that breaks off leaves nothing behind, and one of its arguments attaches the terminator
to an option. -/
theorem call_of_breaksOff {env : Environment} {args : List String} (h : BreaksOff env args) :
    (∃ e, call env args = ⟨.failed e, "", ""⟩) ∧ ∃ arg ∈ args, AttachesTerminator arg := by
  obtain ⟨inv, d, base, hread, hrequest, henv, hrefused⟩ := h
  constructor
  · obtain ⟨e, he⟩ := answer_eq_incomparable_iff.mpr ⟨d, base, hrequest, henv, hrefused⟩
    exact ⟨e, call_of_incomparable hread he⟩
  · refine exists_attachesTerminator hread ?_
    rcases mem_of_firstRefused? hrefused with hk | hd
    · exact Or.inl hk
    · exact Or.inr ⟨d, hrequest, hd⟩

/-- Every call ends in exactly one of the four ways, unless the first value that its derivation does
not admit is an empty list: then it breaks off and writes nothing. That takes an argument that
attaches the terminator to an option. -/
theorem call_ends_iff (env : Environment) (args : List String) :
    ((∃! ending, EndsBy env args ending (call env args)) ↔ ¬ BreaksOff env args)
      ∧ (BreaksOff env args ↔ (∃ e, call env args = ⟨.failed e, "", ""⟩)
          ∧ ∃ arg ∈ args, AttachesTerminator arg) := by
  -- a call that breaks off leaves in none of the four ways
  have hfailed : ∀ {e ending}, call env args = ⟨.failed e, "", ""⟩ →
      ¬ EndsBy env args ending (call env args) := by
    intro e ending hcall hends
    have hstatus := hends.status_eq
    rw [hcall] at hstatus
    cases ending <;> cases hstatus
  refine ⟨⟨?_, ?_⟩, call_of_breaksOff, ?_⟩
  · rintro ⟨ending, hends, -⟩ hbreaks
    obtain ⟨⟨e, hcall⟩, -⟩ := call_of_breaksOff hbreaks
    exact hfailed hcall hends
  · intro hbreaks
    obtain ⟨ending, hends⟩ := exists_endsBy_of_not_breaksOff hbreaks
    refine ⟨ending, hends, fun ending' hends' => ?_⟩
    exact Ending.eq_of_status_eq (hends'.status_eq.symm.trans hends.status_eq)
  · rintro ⟨⟨e, hcall⟩, -⟩
    by_contra hbreaks
    obtain ⟨ending, hends⟩ := exists_endsBy_of_not_breaksOff hbreaks
    exact hfailed hcall hends

/-- The terminator attached to a required option: the epoch is looked at, and holds no integer. -/
theorem not_endsBy_epoch_terminator :
    ¬ ∃ ending, EndsBy (fun _ => none)
      ["derive", "--epoch=--", "--epoch-position", "0", "--period-position", "0",
        "--subsidy-position", "0"] ending
      (call (fun _ => none)
        ["derive", "--epoch=--", "--epoch-position", "0", "--period-position", "0",
          "--subsidy-position", "0"]) := by
  rintro ⟨ending, hends⟩
  have hstatus := hends.status_eq
  have hfailed : (call (fun _ => none)
      ["derive", "--epoch=--", "--epoch-position", "0", "--period-position", "0",
        "--subsidy-position", "0"]).status = .failed ⟨.lt, "list", "int"⟩ := by
    decide
  rw [hfailed] at hstatus
  cases ending <;> cases hstatus

end SatRarity.CommandLine
