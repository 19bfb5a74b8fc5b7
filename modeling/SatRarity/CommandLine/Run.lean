import SatRarity.CommandLine.Invocation
import SatRarity.Derivation
import SatRarity.Schedule.Environment
import SatRarity.Tier.Info

set_option autoImplicit false

/-! # Runs of the command line

A run ends in one of six ways: it prints an answer, it rejects its command with an error of the
domain, it breaks off at a comparison that has no answer or at an integer that cannot be written, it
shows the help of a level, or its arguments are at fault. `Outcome.transcript` says what each of
them writes and how it ends. An answer is printed only when all of it is known, so that a run that
fails prints none.

Only a derivation looks at the environment: first at its schedule, then at the schedule that the
overrides make of it, then at the epoch, and last at the coordinate as a whole. It breaks off where
it looks at a value that is an empty list; one that it does not come to does no harm.
-/

namespace SatRarity.CommandLine

/-! ## Outcomes -/

/-- How a run ends. -/
inductive Outcome
  /-- It prints an answer, and reports the derivation that led to it if that is asked for. -/
  | answered (text : String) (report : Option String)
  | rejected (c : Command) (reason : Rejection)
  /-- It breaks off at a comparison. -/
  | brokenOff (e : Incomparable)
  /-- It breaks off at an integer of its answer, or of a message, that has no decimal. -/
  | unwritable
  | helped (level : Level)
  | misused (level : Level) (fault : Fault)

/-- An answer to a request, and the report of the derivation that led to it. -/
structure Answer where
  text : String
  report : Option String

/-- Why a request has no answer. -/
inductive Failure
  | rejected (reason : Rejection)
  | incomparable (e : Incomparable)
  /-- An integer has no decimal. -/
  | unwritable
  deriving DecidableEq

/-- Why a check fails that compares an integer: it is for the given reason, unless the integer is a
stand-in for an empty list. -/
def Failure.ofCheck (given : Option Given) (c : Comparison) (reason : Rejection) : Failure :=
  match given with
  | some .empty => .incomparable ⟨c, "list", "int"⟩
  | some (.integer _) | none => .rejected reason

/-- Why a draft fails whose coordinate is rejected. -/
def Draft.failure (d : Draft) (reason : Rejection) : Failure :=
  match reason with
  | .coordinate (.negative f) => .ofCheck (some (d.get f)) .lt reason
  | .coordinate .subsidyNotPositive => .ofCheck d.subsidy .le reason
  | reason => .rejected reason

/-- Why a draft fails for which this is raised. -/
def Draft.failureOf (d : Draft) : Raised Rejection → Failure
  | .stated reason => d.failure reason
  | .unwritable => .unwritable

/-- The parameters with those replaced that something is given for; the stand-in is not positive. -/
def Overrides.apply (overrides : Overrides) (p : Schedule.Parameters) : Schedule.Parameters :=
  .ofFun fun k => match overrides k with
    | some given => given.getD 0
    | none => p.get k

/-- The schedule of the environment with some parameters replaced. -/
def mergedSchedule (env : Environment) (overrides : Overrides) : Except Failure Schedule :=
  match Schedule.ofEnvironment env with
  | .error e => .error (.rejected (.schedule e))
  | .ok base => match Schedule.ofParameters (overrides.apply base.parameters) with
    | .ok s => .ok s
    | .error (.notPositive k) =>
      .error (.ofCheck (overrides k) .le (.schedule (.notPositive k)))
    | .error e => .error (.rejected (.schedule e))

/-- The derivation that is asked for. -/
def deriveUnder (env : Environment) (overrides : Overrides) (d : Draft) :
    Except Failure Derivation :=
  match mergedSchedule env overrides with
  | .error failure => .error failure
  | .ok s =>
    if d.coordinate.epoch < 0 then .error (d.failure (.coordinate (.negative .epoch)))
    else (SatRarity.derive s d.coordinate d.subsidy?).mapError d.failureOf

def Invocation.answer (env : Environment) (inv : Invocation) : Except Failure Answer :=
  match inv.request with
  | .parse name => match Tier.ofName name with
    | .ok t => .ok ⟨t.info.toJson.indented, none⟩
    | .error e => .error (.rejected (.name e))
  | .code value => match Tier.ofCode value with
    | .ok t => .ok ⟨t.name, none⟩
    | .error e => .error (.rejected (.code e))
  | .tiers => .ok ⟨(Json.list (Tier.all.map fun t => t.info.toJson)).indented, none⟩
  | .derive draft => do
    let d ← deriveUnder env inv.overrides draft
    match d.report? with
    | some line => .ok ⟨d.toJson.indented, some line⟩
    | none => .error .unwritable

/-- How a run with the given environment and arguments ends. -/
def run (env : Environment) (args : List String) : Outcome :=
  match Invocation.read args with
  | .error (.help level) => .helped level
  | .error (.misuse level f) => .misused level f
  | .ok inv => match inv.answer env with
    | .ok a => .answered a.text (if inv.verbose then a.report else none)
    | .error (.rejected reason) => .rejected inv.request.command reason
    | .error (.incomparable e) => .brokenOff e
    | .error .unwritable => .unwritable

/-! ## Transcripts -/

/-- How the command line is entered: called from another program, or started on its own. -/
inductive Entry
  | called
  | started
  deriving DecidableEq

/-- The name under which log lines are written. -/
def Entry.logger : Entry → String
  | called => "operator_cli.cli"
  | started => "__main__"

/-- How control leaves the command line. -/
inductive Status
  /-- It goes back to the caller with a code. -/
  | returned (code : Nat)
  /-- It ends the process with a code. -/
  | exited (code : Nat)
  /-- It goes nowhere: an error is handled by nobody. -/
  | failed (e : Incomparable)
  /-- It goes nowhere, as an integer has no decimal. -/
  | overflowed
  deriving DecidableEq

/-- What a run leaves behind. -/
structure Transcript where
  status : Status
  stdout : String
  stderr : String
  deriving DecidableEq

/-- How control leaves a run whose command was carried out, or rejected, with the given code. -/
def Entry.leave : Entry → Nat → Status
  | called, code => .returned code
  | started, code => .exited code

/-- What a run that ends so leaves behind. -/
def Outcome.transcript (entry : Entry) : Outcome → Transcript
  | answered text report => {
      status := entry.leave 0
      stdout := text ++ "\n"
      stderr := match report with
        | some line => "DEBUG " ++ entry.logger ++ ": " ++ line ++ "\n"
        | none => "" }
  | rejected c reason => {
      status := entry.leave 2
      stdout := ""
      stderr := "WARNING " ++ entry.logger ++ ": rejected " ++ c.name ++ " command: "
        ++ reason.message ++ "\n" ++ "ERROR: " ++ reason.message ++ "\n" }
  | brokenOff e => { status := .failed e, stdout := "", stderr := "" }
  | unwritable => { status := .overflowed, stdout := "", stderr := "" }
  | helped level => { status := .exited 0, stdout := level.help, stderr := "" }
  | misused level f => {
      status := .exited 2
      stdout := ""
      stderr := level.usage ++ level.title ++ ": error: " ++ f.message ++ "\n" }

end SatRarity.CommandLine
