import SatRarity.Derivation
import SatRarity.Service.Report
import SatRarity.Service.Route
import SatRarity.Tier.Info

set_option autoImplicit false

/-! # Responses and log entries

The body of a response is what it says, and `Body.written` is how that is written. A reply is a
response with the log entries that the request caused. A body that holds numbers or texts from
outside may be one that cannot be sent, and then there is no response at all, `Reply.send`.

The pages about the service are a matter of their own: it is said which page is the answer, but not
what stands on it.
-/

namespace SatRarity.Service

/-! ## Responses -/

/-- What a response says. -/
inductive Body
  | tiers (infos : List TierInfo)
  | tier (info : TierInfo)
  | schedule (s : Schedule)
  | derivation (d : Derivation)
  /-- The message of a rejection, or that remote clients are not served. -/
  | error (message : String)
  /-- Why there is nothing at a path, or nothing for a method, or why a body was not read. -/
  | detail (message : String)
  | issues (found : List Issue)

def scheduleJson (s : Schedule) : Json :=
  .object (s.parameters.fields.map fun (name, n) => (name, .int n))

/-- What the body says, without what issues repeat of the request. -/
def Body.toJson : Body → Json
  | tiers infos => .list (infos.map TierInfo.toJson)
  | tier info => info.toJson
  | schedule s => scheduleJson s
  | derivation d => d.toJson
  | error message => .object [("error", .text message)]
  | detail message => .object [("detail", .text message)]
  | issues found => .list (found.map Issue.toJson)

/-- What is written of the body. -/
def Body.written : Body → Json
  | issues found => report found
  | body => body.toJson

/-- A response over HTTP. -/
structure Response where
  status : Nat
  body : Option Body
  /-- The methods that are allowed, where another one was tried. Their order means nothing. -/
  allow : List String
  /-- Where to go instead. -/
  location : Option String

/-- A response with a body and no further headers. -/
def Response.plain (status : Nat) (body : Body) : Response := ⟨status, some body, [], none⟩

/-! ## Log entries -/

/-- Something that is logged. -/
inductive LogEntry
  | remote (host : String)
  | rejected (method path message : String)
  | derived (d : Derivation)
  deriving DecidableEq

/-- The line of an entry. There is none if an integer in it cannot be written. -/
def LogEntry.line? : LogEntry → Option String
  | remote host => some ("WARNING rejected remote request from " ++ host)
  | rejected method path message =>
    some ("WARNING rejected " ++ method ++ " " ++ path ++ ": " ++ message)
  | derived d => d.report?.map fun line => "DEBUG " ++ line

/-! ## Replies -/

/-- What comes of a request. -/
inductive Result
  | response (r : Response)
  /-- A page about the service, with the status of success: a document, or an object that states no
  error. -/
  | page (p : Page)
  /-- There is something to answer or to log, but it cannot be written. -/
  | unwritable (fault : Json.WriteFault)

/-- What comes of a request, and what it logs. -/
structure Reply where
  result : Result
  log : List LogEntry

namespace Reply

/-- A reply of which nothing is logged, with a body that can always be written. -/
def quiet (status : Nat) (body : Body) : Reply := ⟨.response (.plain status body), []⟩

/-- The reply with a body, if that can be written. -/
def send (status : Nat) (body : Body) (log : List LogEntry) : Reply :=
  match body.written.writeFault? with
  | none => ⟨.response (.plain status body), log⟩
  | some fault => ⟨.unwritable fault, log⟩

/-- The reply that reports issues. -/
def ofIssues (found : List Issue) : Reply := send 422 (.issues found) []

/-- The reply to a method that is not among those that are allowed. -/
def notAllowed (methods : List String) : Reply :=
  ⟨.response ⟨405, some (.detail "Method Not Allowed"), methods, none⟩, []⟩

end Reply

end SatRarity.Service
