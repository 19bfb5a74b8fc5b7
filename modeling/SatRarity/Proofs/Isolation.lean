import SatRarity.Service.Session

set_option autoImplicit false

/-! # Remote clients

A remote client learns nothing of the service, not even which paths there are: the reply to its
request is a function of its host, `handle_of_remote`. So the replies to the remote clients of a run
are known from their hosts alone, whatever else the run does, `remoteReplies_run`. Nor does it
change anything: without its requests the run is the same for everyone else, `run_filter_isLocal`.
-/

namespace SatRarity.Service

/-! ## One request -/

/-- The reply says that remote clients are not served, and its only log entry is a warning that
names the host. -/
structure Reply.Refuses (host : String) (reply : Reply) : Prop where
  response : ∃ body, reply.result = .response (.plain 403 body)
    ∧ body.toJson = .object [("error", .text "Remote access disabled.")]
  log : reply.log.map LogEntry.line? = [some ("WARNING rejected remote request from " ++ host)]

/-- The reply to a remote client. -/
def refusal (host : String) : Reply :=
  ⟨.response (.plain 403 (.error "Remote access disabled.")), [.remote host]⟩

theorem refuses_refusal (host : String) : (refusal host).Refuses host where
  response := ⟨_, rfl, rfl⟩
  log := rfl

theorem Request.remoteHost?_eq_some_iff {r : Request} {host : String} :
    r.remoteHost? = some host ↔ r.client = some host ∧ host ∉ Request.localHosts := by
  simp [Request.remoteHost?, Option.filter_eq_some_iff]

/-- A remote client is refused whatever it asks for, and whichever schedule is active. -/
theorem handle_of_remote {r : Request} {host : String} (h : r.remoteHost? = some host)
    (s : Schedule) : handle s r = refusal host := by
  rw [handle, h]
  rfl

/-! ## Steps -/

/-- The host of the remote client that takes the step, if one does. -/
def Step.remoteHost? : Step → Option String
  | request r => r.remoteHost?
  | activate _ | reset _ => none

/-- No remote client takes the step. -/
def Step.isLocal (s : Step) : Bool := s.remoteHost?.isNone

/-- What the answer to a step tells the remote client that took it, if one did. -/
def StepAnswer.toRemote : Step → StepAnswer → Option Reply
  | s, reply _ r => if s.isLocal then none else some r
  | _, activation _ _ => none

theorem Step.exists_request_of_remoteHost? {s : Step} {host : String}
    (h : s.remoteHost? = some host) : ∃ r, s = request r ∧ r.remoteHost? = some host := by
  cases s with
  | request r => exact ⟨r, rfl, h⟩
  | activate p => cases h
  | reset env => cases h

/-- A step of a remote client leaves the active schedule as it is, and is refused. -/
theorem step_of_remote {s : Step} {host : String} (h : s.remoteHost? = some host)
    (active : Schedule) : step active s = (active, .reply active (refusal host)) := by
  obtain ⟨r, rfl, hr⟩ := Step.exists_request_of_remoteHost? h
  rw [step, handle_of_remote hr]

theorem toRemote_step (active : Schedule) (s : Step) :
    (step active s).2.toRemote s = s.remoteHost?.map refusal := by
  cases hhost : s.remoteHost? with
  | some host => simp [step_of_remote hhost, StepAnswer.toRemote, Step.isLocal, hhost]
  | none =>
      cases hanswer : (step active s).2 <;> simp [StepAnswer.toRemote, Step.isLocal, hhost]

/-! ## Runs -/

/-- What remote clients are told, each in the place of its step; the other places are empty. -/
def remoteReplies (steps : List Step) (answers : List StepAnswer) : List (Option Reply) :=
  steps.zipWith (fun s a => a.toRemote s) answers

/-- Every remote client of a run is refused. -/
theorem remoteReplies_run (active : Schedule) (steps : List Step) :
    remoteReplies steps (run active steps).2 = steps.map fun s => s.remoteHost?.map refusal := by
  induction steps generalizing active with
  | nil => rfl
  | cons s rest ih =>
      have hrest := ih (step active s).1
      rw [remoteReplies] at hrest
      rw [remoteReplies, run_cons, List.zipWith_cons_cons, hrest, toRemote_step, List.map_cons]

/-- The answers to those steps that no remote client takes. -/
def localAnswers (steps : List Step) (answers : List StepAnswer) : List StepAnswer :=
  ((steps.zip answers).filter fun entry => entry.1.isLocal).map Prod.snd

/-- Without the steps of remote clients a run comes to the same, but for the answers to them. -/
theorem run_filter_isLocal (active : Schedule) (steps : List Step) :
    run active (steps.filter Step.isLocal)
      = ((run active steps).1, localAnswers steps (run active steps).2) := by
  induction steps generalizing active with
  | nil => rfl
  | cons s rest ih =>
      cases hhost : s.remoteHost? with
      | some host =>
          have hremote : s.isLocal = false := by rw [Step.isLocal, hhost]; rfl
          simp only [List.filter_cons, run_cons, localAnswers, List.zip_cons_cons, hremote]
          -- the active schedule is still the same, so the rest of the run is
          rw [step_of_remote hhost]
          exact ih active
      | none =>
          have hlocal : s.isLocal = true := by rw [Step.isLocal, hhost]; rfl
          simp only [List.filter_cons, run_cons, localAnswers, List.zip_cons_cons, hlocal, if_true,
            List.map_cons, ih]

/-- Every request of a remote client is refused; what remote clients are told depends on nothing but
where their requests stand and from which hosts they come; and without these requests the run is the
same for everyone else. -/
theorem remote_isolated (active : Schedule) (steps : List Step) :
    (∀ earlier r later host, steps = earlier ++ .request r :: later → r.client = some host →
      host ∉ ["127.0.0.1", "::1", "testclient"] →
        ∃ shown reply, (run active steps).2[earlier.length]? = some (.reply shown reply)
          ∧ reply.Refuses host)
    ∧ (∀ (active' : Schedule) (steps' : List Step),
      steps'.map Step.remoteHost? = steps.map Step.remoteHost? →
        remoteReplies steps' (run active' steps').2 = remoteReplies steps (run active steps).2)
    ∧ (run active (steps.filter Step.isLocal)).1 = (run active steps).1
    ∧ (run active (steps.filter Step.isLocal)).2 = localAnswers steps (run active steps).2 := by
  refine ⟨?_, ?_, ?_, ?_⟩
  · rintro earlier r later host rfl hclient hhost
    have hremote : (Step.request r).remoteHost? = some host :=
      Request.remoteHost?_eq_some_iff.mpr ⟨hclient, hhost⟩
    have hstep := step_of_remote hremote (run active earlier).1
    exact ⟨_, _, by rw [getElem?_run, hstep], refuses_refusal host⟩
  · intro active' steps' hhosts
    have hreplies := congrArg (List.map (Option.map refusal)) hhosts
    simp only [List.map_map, Function.comp_def] at hreplies
    rw [remoteReplies_run, remoteReplies_run, hreplies]
  · rw [run_filter_isLocal]
  · rw [run_filter_isLocal]

end SatRarity.Service
