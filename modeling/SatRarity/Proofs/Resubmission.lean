import SatRarity.Coordinate.Dictionary
import SatRarity.Proofs.Limits
import SatRarity.Proofs.Surfaces

set_option autoImplicit false

/-! # Explicit subsidies and resubmission

A submission that leaves the subsidy open is derived like the one that states the subsidy of the
schedule, `Submission.explicit`. So both are answered alike, be it with a record or with a message,
and on either surface. The record of a derivation states the coordinate and the subsidy that
counted, and it is read back from what is printed or returned; hence it can be submitted again, and
leads to the same record. `subsidy_interchangeable` says all of it.

That the subsidy can be stated at all takes a schedule whose parameters keep to the limit of
numerals: the subsidy of an era is not above the first one, so it has no more digits.
-/

namespace SatRarity

open Text

/-! ## Explicit subsidies -/

namespace Submission

/-- The submission with the subsidy that counts for it. -/
def explicit (s : Schedule) (x : Submission) : Submission := ⟨x.coordinate, some (x.subsidyIn s)⟩

theorem isPlace_explicit {s : Schedule} {x : Submission} :
    (x.explicit s).IsPlace s ↔ x.IsPlace s := Iff.rfl

/-- To state the subsidy that counts changes nothing, whether the submission is a place or not. -/
theorem derive_explicit {x : Submission} (h : 0 ≤ x.coordinate.epoch) (s : Schedule) :
    derive s (x.explicit s).coordinate (x.explicit s).subsidy
      = derive s x.coordinate x.subsidy := by
  have hexplicit := derive_of_epoch_nonneg (x := x.explicit s) h s
  rw [hexplicit, derive_of_epoch_nonneg h]
  rfl

end Submission

/-! ## Records of derivations -/

namespace Derivation

/-- The written form begins with a brace and something else. -/
theorem exists_length_write (d : Derivation) (layout : Json.Layout) :
    ∃ k, (d.toJson.write layout).points.length = k + 2 := by
  refine ⟨(d.toJson.write layout).points.length - 2, ?_⟩
  cases layout <;>
    simp [toJson, Json.write, Json.writeValue, Json.writeText, Json.plain, Json.Layout.lineBreak]

end Derivation

namespace Json

/-- What was written is read back, whatever white space follows it. -/
theorem IsExact.readPoints_write_append {depth : Nat} {v : Json} (h : IsExact depth v)
    (layout : Layout) {t : Source} (ht : IsDelimited t) (hspace : skipSpace t = []) :
    readPoints depth ((write layout v).points ++ t) = .ok v := by
  have hskip := h.skipSpace_write layout 0 t
  have hfuel :
      2 * (writeValue layout 0 v).length ≤ 2 * (writeValue layout 0 v ++ t).length + 2 := by
    rw [List.length_append]
    omega
  have hread := h.readsBack layout 0 _ t hfuel ht
  simp only [readPoints, write, hskip, hread, bind, Except.bind, hspace]
  rfl

end Json

/-- The record of a derivation is read back from what a call prints, and from what the service
returns. -/
theorem Derivation.read_toJson {d : Derivation} (h : d.KeepsToLimit) (layout : Json.Layout)
    {after : String} (hafter : after ∈ ["", "\n"]) :
    Json.read ((d.toJson.write layout).toString ++ after) = .ok d.toJson := by
  obtain ⟨k, hk⟩ := d.exists_length_write layout
  have hexact := isExact_toJson h (k + after.length)
  have hwritten : LooseText.ofString (d.toJson.write layout).toString = d.toJson.write layout :=
    LooseText.ofString_toString (hexact.isWellFormed_write layout)
  have hpoints : (LooseText.ofString ((d.toJson.write layout).toString ++ after)).points
      = (d.toJson.write layout).points ++ Json.plain after.toList := by
    have hfirst := congrArg LooseText.points hwritten
    simp only [LooseText.ofString] at hfirst ⊢
    rw [String.toList_append, List.map_append, hfirst, Json.plain]
  have hlength : ((d.toJson.write layout).toString ++ after).length = k + after.length + 2 := by
    have hfirst : (d.toJson.write layout).toString.length = k + 2 := by
      simp [LooseText.toString, hk]
    rw [String.length_append, hfirst]
    omega
  have hspace : Json.IsDelimited (Json.plain after.toList)
      ∧ Json.skipSpace (Json.plain after.toList) = [] := by
    simp only [List.mem_cons, List.not_mem_nil, or_false] at hafter
    rcases hafter with rfl | rfl
    · exact ⟨Json.isDelimited_nil, rfl⟩
    · exact ⟨Json.isDelimited_cons (by decide) [], rfl⟩
  rw [Json.read, hpoints, hlength]
  exact hexact.readPoints_write_append layout hspace.1 hspace.2

/-- The record holds the coordinate and the subsidy. -/
def Holds (v : Json) (c : Coordinate) (n : Int) : Prop :=
  (∃ record, v.get? "coordinate" = some record ∧ Coordinate.ofJson record = .ok c)
    ∧ v.get? "subsidy" = some (.int n)

theorem Derivation.holds_toJson (d : Derivation) : Holds d.toJson d.coordinate d.subsidy :=
  ⟨⟨_, rfl, rfl⟩, rfl⟩

/-! ## The command line -/

namespace CommandLine

/-- The arguments ask for the derivation of a submission under a schedule, by options that are
written out. -/
structure AsksFor (env : Environment) (program options : List Occurrence) (s : Schedule)
    (x : Submission) : Prop where
  isProgram : ∀ o ∈ program, o.IsOf .program
  isDerive : ∀ o ∈ options, o.IsOf (.command .derive)
  fields : ∀ f, Occurrence.last? (.field f) options = some (x.coordinate.get f)
  subsidy : Occurrence.last? .subsidy options = x.subsidy
  schedule : mergedSchedule env (Occurrence.overrides program) = .ok s

namespace AsksFor

variable {env env' : Environment} {program program' options options' : List Occurrence}
  {s : Schedule} {x x' : Submission}

theorem keepsToLimit (h : AsksFor env program options s x) : x.KeepsToLimit :=
  keepsToLimit_of_last? h.isDerive h.fields h.subsidy

/-- A subsidy may be stated after the other options. -/
theorem append (h : AsksFor env program options s x) {n : Int} (hn : WithinLimit n)
    (attached : Bool) :
    AsksFor env program (options ++ [.value .subsidy n attached]) s ⟨x.coordinate, some n⟩ where
  isProgram := h.isProgram
  isDerive := by
    intro o ho
    rcases List.mem_append.mp ho with ho | ho
    · exact h.isDerive o ho
    · rw [List.mem_singleton.mp ho]
      exact ⟨by decide, rfl, hn⟩
  fields := by
    intro f
    have hlast := h.fields f
    rw [Occurrence.last?] at hlast ⊢
    rw [List.reverse_append]
    exact hlast
  subsidy := by
    rw [Occurrence.last?, List.reverse_append]
    rfl
  schedule := h.schedule

/-- Calls for submissions that are derived alike end alike. -/
theorem call_eq (h : AsksFor env program options s x) (h' : AsksFor env' program' options' s x')
    (hcoordinate : x.coordinate = x'.coordinate)
    (hderive : derive s x.coordinate x.subsidy = derive s x'.coordinate x'.subsidy)
    (hverbose : program.contains .verbose = program'.contains .verbose) :
    call env (deriveArgs program options) = call env' (deriveArgs program' options') := by
  rw [call, call, run_derive h.isProgram h.isDerive h.fields h.subsidy h.schedule,
    run_derive h'.isProgram h'.isDerive h'.fields h'.subsidy h'.schedule, hderive, hcoordinate,
    hverbose]

/-- A call for a place prints its record. -/
theorem prints (h : AsksFor env program options s x) (hplace : x.IsPlace s) :
    (call env (deriveArgs program options)).Prints (x.derivation s) := by
  have hepoch : ¬ x.coordinate.epoch < 0 := Int.not_lt.mpr (hplace.1 .epoch)
  have hlimit : (x.derivation s).KeepsToLimit := Submission.keepsToLimit_derivation
    (withinLimit_of_overrides h.isProgram h.schedule) h.keepsToLimit
  obtain ⟨report, hanswered⟩ := Outcome.ofDerivation_of_keepsToLimit hlimit _
  rw [call, run_derive h.isProgram h.isDerive h.fields h.subsidy h.schedule, if_neg hepoch,
    Submission.derive_of_isPlace hplace, hanswered]
  exact ⟨rfl, rfl⟩

/-- A call that returns success was for a place. -/
theorem isPlace (h : AsksFor env program options s x)
    (hstatus : (call env (deriveArgs program options)).status = .returned 0) : x.IsPlace s := by
  have hrejected : ∀ reason, call env (deriveArgs program options)
      ≠ (Outcome.rejected .derive reason).transcript .called := by
    intro reason hcall
    rw [hcall] at hstatus
    exact (rejects_transcript reason).status_ne hstatus
  rw [call, run_derive h.isProgram h.isDerive h.fields h.subsidy h.schedule] at hrejected
  by_cases hepoch : x.coordinate.epoch < 0
  · rw [if_pos hepoch] at hrejected
    exact absurd rfl (hrejected _)
  · by_contra hplace
    obtain ⟨e, -, hderive⟩ := Submission.exists_derive_of_not_isPlace hplace
      (Int.not_lt.mp hepoch) (h.keepsToLimit.1 .subsidyPosition)
    rw [if_neg hepoch, hderive] at hrejected
    exact absurd rfl (hrejected _)

end AsksFor

end CommandLine

/-! ## The service -/

namespace Service

/-- A local client calls for the derivation of a submission. -/
structure Request.Submits (r : Request) (x : Submission) : Prop where
  isLocal : r.remoteHost? = none
  calls : r.Calls .derive
  read : readSubmission r = .ok x

namespace Request.Submits

variable {r : Request} {x : Submission}

theorem handle_eq (h : r.Submits x) (s : Schedule) :
    handle s r = replyDerivation r (derive s x.coordinate x.subsidy) := by
  rw [handle_of_calls h.isLocal h.calls, serve, h.read]

theorem answers (h : r.Submits x) {s : Schedule} (hs : ∀ k, WithinLimit (s.parameters.get k))
    (hplace : x.IsPlace s) : (handle s r).Answers 200 (x.derivation s).toJson := by
  have hlimit : (x.derivation s).KeepsToLimit :=
    Submission.keepsToLimit_derivation hs (keepsToLimit_of_readSubmission h.read)
  rw [h.handle_eq, Submission.derive_of_isPlace hplace, replyDerivation_of_keepsToLimit hlimit]
  exact ⟨_, rfl, rfl⟩

/-- What is answered with success is a place, and the answer is its record. -/
theorem of_answers (h : r.Submits x) {s : Schedule} {v : Json} (hv : (handle s r).Answers 200 v) :
    x.IsPlace s ∧ v = (x.derivation s).toJson := by
  obtain ⟨body, hresult, rfl⟩ := hv
  rw [h.handle_eq] at hresult
  cases hderive : derive s x.coordinate x.subsidy with
  | error raised =>
      rw [hderive] at hresult
      cases raised with
      | stated reason =>
          have hstatus : 400 = 200 := congrArg Response.status (Result.response.inj hresult)
          exact absurd hstatus (by decide)
      | unwritable => cases hresult
  | ok d =>
      rw [hderive] at hresult
      obtain ⟨hplace, rfl⟩ := Submission.derive_eq_ok_iff.mp hderive
      have hbody := congrArg Response.body (Reply.eq_plain_of_send hresult)
      obtain rfl := Option.some.inj hbody
      exact ⟨hplace, rfl⟩

end Request.Submits

/-- The reply about a derivation depends on the request by what is logged of it. -/
theorem replyDerivation_congr {r r' : Request} (hmethod : r.method = r'.method)
    (hpath : r.path = r'.path) (result : Except (Raised Rejection) Derivation) :
    replyDerivation r result = replyDerivation r' result := by
  cases result with
  | ok d => rfl
  | error raised =>
      cases raised with
      | stated reason =>
          rw [replyDerivation, replyDerivation, reject, reject, Request.shownPath,
            Request.shownPath, hmethod, hpath]
      | unwritable => rfl

/-- A posted record submits its coordinate, with the subsidy that is read. -/
theorem Request.Posts.submits {r : Request} {c : Coordinate} {given : Option Json}
    (h : r.Posts "/api/derive" (c.recordWith given)) (hnonneg : ∀ f, 0 ≤ c.get f)
    (hlimit : ∀ f, WithinLimit (c.get f))
    (hgiven : ∀ v ∈ given, v = .null ∨ ∃ n, v = .int n ∧ WithinLimit n) {subsidy : Option Int}
    (hsubsidy : Submission.readSubsidy (c.recordWith given) = .ok subsidy) :
    r.Submits ⟨c, subsidy⟩ where
  isLocal := h.isLocal
  calls := ⟨by rw [h.path]; rfl, h.method⟩
  read := by
    have hexact : Json.IsExact nestingLimit (c.recordWith given) := by
      refine Coordinate.isExact_recordWith hlimit fun v hv => ?_
      rcases hgiven v hv with rfl | ⟨n, rfl, hn⟩
      · exact .null
      · exact .int hn
    simp only [readSubmission, readBody_of_posts h hexact,
      Submission.ofJson_recordWith hnonneg hsubsidy]

end Service

open CommandLine Service

/-! ## Both -/

/-- Under the schedule, it makes no difference whether the subsidy of a coordinate is left open or
stated as `n`. -/
structure DefaultIsExplicit (s : Schedule) (c : Coordinate) (n : Int) : Prop where
  /-- Where it is left open it can be stated. -/
  stated : ∀ {env : Environment} {program options : List Occurrence},
    AsksFor env program options s ⟨c, none⟩ → ∀ attached,
    AsksFor env program (options ++ [.value .subsidy n attached]) s ⟨c, some n⟩
  /-- Both calls leave the same behind. -/
  calls : ∀ {env env' : Environment} {program program' options options' : List Occurrence},
    AsksFor env program options s ⟨c, none⟩ → AsksFor env' program' options' s ⟨c, some n⟩ →
    program.contains .verbose = program'.contains .verbose →
    call env (deriveArgs program options) = call env' (deriveArgs program' options')
  /-- The replies to records without a subsidy, with null, and with `n` are the same. -/
  replies : ∀ {a b : Option Json}, a ∈ [none, some .null, some (.int n)] →
    b ∈ [none, some .null, some (.int n)] → ∀ {r r' : Service.Request},
    r.Posts "/api/derive" (c.recordWith a) → r'.Posts "/api/derive" (c.recordWith b) →
    handle s r = handle s r'

/-- Under the schedule, the record that a submission leads to holds its coordinate and a subsidy,
and when these are submitted they lead to the same record. -/
structure Resubmittable (s : Schedule) (x : Submission) : Prop where
  printed : ∀ {env : Environment} {program options : List Occurrence},
    AsksFor env program options s x →
    (call env (deriveArgs program options)).status = .returned 0 →
    ∃ v n, Json.read (call env (deriveArgs program options)).stdout = .ok v
      ∧ Holds v x.coordinate n
      ∧ (∀ attached,
          AsksFor env program (options ++ [.value .subsidy n attached]) s ⟨x.coordinate, some n⟩)
      ∧ ∀ {env' : Environment} {program' options' : List Occurrence},
          AsksFor env' program' options' s ⟨x.coordinate, some n⟩ →
          (call env' (deriveArgs program' options')).status = .returned 0
            ∧ (call env' (deriveArgs program' options')).stdout
              = (call env (deriveArgs program options)).stdout
  returned : ∀ {r : Service.Request} {v : Json}, r.Submits x → (handle s r).Answers 200 v →
    Json.read v.compact = .ok v ∧ ∃ n, Holds v x.coordinate n ∧ ∀ {r' : Service.Request},
      r'.Posts "/api/derive" (x.coordinate.recordWith (some (.int n))) →
      (handle s r').Answers 200 v

section

variable {s : Schedule} (hs : ∀ k, WithinLimit (s.parameters.get k))

include hs

theorem defaultIsExplicit {c : Coordinate} (hnonneg : ∀ f, 0 ≤ c.get f)
    (hlimit : ∀ f, WithinLimit (c.get f)) :
    DefaultIsExplicit s c (s.subsidyOf c.epoch.toNat) where
  stated := fun h attached => h.append (Schedule.withinLimit_subsidyOf hs _) attached
  calls := fun h h' hverbose =>
    h.call_eq h' rfl (Submission.derive_explicit (hnonneg .epoch) s).symm hverbose
  replies := by
    have hn := Schedule.withinLimit_subsidyOf hs c.epoch.toNat
    have hderive := Submission.derive_explicit (x := ⟨c, none⟩) (hnonneg .epoch) s
    have hreply : ∀ {a}, a ∈ [none, some .null, some (.int (s.subsidyOf c.epoch.toNat))] →
        ∀ {r : Service.Request}, r.Posts "/api/derive" (c.recordWith a) →
        handle s r = replyDerivation r (derive s c none) := by
      intro a ha r hpost
      simp only [List.mem_cons, List.not_mem_nil, or_false] at ha
      rcases ha with rfl | rfl | rfl
      · exact (hpost.submits hnonneg hlimit (by simp) rfl).handle_eq s
      · exact (hpost.submits hnonneg hlimit (by simp) rfl).handle_eq s
      · rw [(hpost.submits hnonneg hlimit (by simpa using hn) rfl).handle_eq s]
        exact congrArg _ hderive
    intro a b ha hb r r' hpost hpost'
    rw [hreply ha hpost, hreply hb hpost']
    exact replyDerivation_congr (hpost.method.trans hpost'.method.symm)
      (hpost.path.trans hpost'.path.symm) _

theorem resubmittable (x : Submission) : Resubmittable s x where
  printed := by
    intro env program options h hstatus
    have hplace := h.isPlace hstatus
    have hlimit := Submission.keepsToLimit_derivation hs h.keepsToLimit
    obtain ⟨-, hstdout⟩ := h.prints hplace
    refine ⟨(x.derivation s).toJson, x.subsidyIn s, ?_, (x.derivation s).holds_toJson, ?_, ?_⟩
    · rw [hstdout]
      exact Derivation.read_toJson hlimit .indented (by decide)
    · exact h.append hlimit.2
    · intro env' program' options' h'
      obtain ⟨hstatus', hstdout'⟩ := h'.prints (Submission.isPlace_explicit.mpr hplace)
      exact ⟨hstatus', hstdout'.trans hstdout.symm⟩
  returned := by
    intro r v h hv
    obtain ⟨hplace, rfl⟩ := h.of_answers hv
    have hlimit := Submission.keepsToLimit_derivation hs (keepsToLimit_of_readSubmission h.read)
    refine ⟨?_, x.subsidyIn s, (x.derivation s).holds_toJson, ?_⟩
    · have hread :
          Json.read ((x.derivation s).toJson.compact ++ "") = .ok (x.derivation s).toJson :=
        Derivation.read_toJson hlimit .compact (by decide)
      rwa [String.append_empty] at hread
    · intro r' hpost
      have hsubsidy : WithinLimit (x.subsidyIn s) := hlimit.2
      have hsubmits : r'.Submits (x.explicit s) :=
        hpost.submits hplace.1 hlimit.1 (by simpa using hsubsidy) rfl
      exact hsubmits.answers hs (Submission.isPlace_explicit.mpr hplace)

/-- The subsidy of a coordinate without a negative field may be left open or stated as that of the
schedule, and what any derivation of the coordinate leads to can be submitted again. -/
theorem subsidy_interchangeable {c : Coordinate} (hnonneg : ∀ f, 0 ≤ c.get f)
    (hlimit : ∀ f, WithinLimit (c.get f)) :
    (∃ n : Nat, s.subsidy c.epoch = .ok n ∧ DefaultIsExplicit s c n)
      ∧ ∀ subsidy : Option Int, Resubmittable s ⟨c, subsidy⟩ := by
  have hepoch : 0 ≤ c.epoch := hnonneg .epoch
  have hsubsidy : s.subsidy c.epoch = .ok (s.subsidyOf c.epoch.toNat) := by
    rw [Schedule.subsidy, if_pos hepoch]
  exact ⟨⟨_, hsubsidy, defaultIsExplicit hs hnonneg hlimit⟩, fun _ => resubmittable hs _⟩

end

/-- An era without a subsidy, and the first sat of the second era. -/
theorem subsidy_interchangeable_exhausted :
    call (fun _ => none) (deriveArgs []
        (Coordinate.Field.all.map
          fun f => .value (.field f) (Coordinate.get ⟨33, 0, 0, 0⟩ f) false))
        = call (fun _ => none) (deriveArgs []
          ((Coordinate.Field.all.map
            fun f => .value (.field f) (Coordinate.get ⟨33, 0, 0, 0⟩ f) false)
              ++ [.value .subsidy 0 true]))
      ∧ Resubmittable .standard ⟨⟨1, 0, 336, 0⟩, none⟩ := by
  have hs : ∀ k, WithinLimit (Schedule.standard.parameters.get k) := by
    intro k
    cases k <;> decide
  have hnonneg : ∀ f, 0 ≤ Coordinate.get ⟨33, 0, 0, 0⟩ f := by
    intro f
    cases f <;> decide
  have hlimit : ∀ f, WithinLimit (Coordinate.get ⟨33, 0, 0, 0⟩ f) := by
    intro f
    cases f <;> decide
  obtain ⟨⟨n, hn, hsame⟩, -⟩ := subsidy_interchangeable hs hnonneg hlimit
  have hzero : n = 0 := by
    have hsubsidy : Schedule.standard.subsidy 33 = .ok 0 := by decide
    exact Except.ok.inj (hn.symm.trans hsubsidy)
  subst hzero
  have hasks : AsksFor (fun _ => none) [] (Coordinate.Field.all.map
      fun f => .value (.field f) (Coordinate.get ⟨33, 0, 0, 0⟩ f) false) .standard
      ⟨⟨33, 0, 0, 0⟩, none⟩ :=
    ⟨by decide, by decide, by intro f; cases f <;> rfl, rfl, rfl⟩
  refine ⟨hsame.calls hasks (hsame.stated hasks true) rfl, ?_⟩
  exact (subsidy_interchangeable hs (c := ⟨1, 0, 336, 0⟩) (by intro f; cases f <;> decide)
    (by intro f; cases f <;> decide)).2 none

end SatRarity
