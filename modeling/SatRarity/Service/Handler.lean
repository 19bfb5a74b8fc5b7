import SatRarity.Json.Encoding
import SatRarity.Service.Response
import SatRarity.Service.Route
import SatRarity.Validation.Submission

set_option autoImplicit false

/-! # Handling a request

`handle` answers one request under the active schedule, and does nothing else: a request cannot
change the schedule. A remote client is turned away before anything of its request is looked at.
For a local one the path and the method are looked at first, then what the route needs of the
request, and only a request that is in order reaches the domain, whose errors are rejections.
-/

namespace SatRarity.Service

open Text

/-! ## Reading a submission -/

/-- Why the body of a request is no submission. -/
inductive BodyFault
  /-- It was read, and these are its issues. -/
  | issues (found : List Issue)
  /-- It was not read to the end. -/
  | unparsed

/-- How deep lists and objects may stand in the body of a request. -/
def nestingLimit : Nat := 970

/-- The value that the body of a request is. -/
def readBody (r : Request) : Except BodyFault Json :=
  if r.body.isEmpty then .error (.issues [⟨.missing, Submission.place, .null⟩])
  else if !r.declaresJson then
    .error (.issues [⟨.notRecord, Submission.place, .text (LooseText.ofString r.body)⟩])
  else match Json.decode? r.body with
    | none => .error .unparsed
    | some t => match Json.readPoints nestingLimit t.points with
      | .ok v => .ok v
      | .error .malformed => .error (.issues [⟨.notJson, Submission.place, .object []⟩])
      | .error .integerTooLong | .error .tooDeep => .error .unparsed

/-- The submission that the body of a request is. -/
def readSubmission (r : Request) : Except BodyFault Submission :=
  match readBody r with
  | .error fault => .error fault
  | .ok v => match Submission.ofJson v with
    | .ok s => .ok s
    | .error found => .error (.issues found)

/-! ## Replies -/

/-- The reply to a request that the domain rejects. -/
def reject (r : Request) (reason : Rejection) : Reply :=
  ⟨.response (.plain 400 (.error reason.message)),
    [.rejected r.method r.shownPath reason.message]⟩

/-- The reply to a request for a tier. -/
def replyTier (r : Request) : Except Rejection Tier → Reply
  | .ok t => .quiet 200 (.tier t.info)
  | .error reason => reject r reason

/-- The reply to a request for a derivation. It is logged before it is written. -/
def replyDerivation (r : Request) : Except (Raised Rejection) Derivation → Reply
  | .ok d => .send 200 (.derivation d) [.derived d]
  | .error (.stated reason) => reject r reason
  | .error .unwritable => ⟨.unwritable .tooLong, []⟩

/-- The reply to a request that has reached a route by its method. -/
def serve (s : Schedule) (r : Request) : Route → Reply
  | .tiers => .quiet 200 (.tiers (Tier.all.map Tier.info))
  | .schedule => .send 200 (.schedule s) []
  | .code value => match Lenient.integerOfText value with
    | .ok n => replyTier r ((Tier.ofCode n).mapError .code)
    | .error kind => .ofIssues [⟨kind, ["path", "value"], .text (LooseText.ofString value)⟩]
  | .tier name => replyTier r ((Tier.ofName name).mapError .name)
  | .derive => match readSubmission r with
    | .ok submission =>
      replyDerivation r (SatRarity.derive s submission.coordinate submission.subsidy)
    | .error (.issues found) => .ofIssues found
    | .error .unparsed => .quiet 400 (.detail "There was an error parsing the body")

/-- The reply to a request of a local client. -/
def serveLocal (s : Schedule) (r : Request) : Reply :=
  match Route.ofPath? r.path with
  | some route =>
    if r.method = route.method then serve s r route else .notAllowed [route.method]
  | none => match Page.ofPath? r.path with
    | some page => if r.method ∈ Page.methods then ⟨.page page, []⟩ else .notAllowed Page.methods
    | none => match Route.redirection? r.path with
      | some path => ⟨.response ⟨307, none, [], some (link path r.query)⟩, []⟩
      | none => .quiet 404 (.detail "Not Found")

def handle (s : Schedule) (r : Request) : Reply :=
  match r.remoteHost? with
  | some host => ⟨.response (.plain 403 (.error "Remote access disabled.")), [.remote host]⟩
  | none => serveLocal s r

end SatRarity.Service
