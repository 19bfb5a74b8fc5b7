import SatRarity.CommandLine.Event
import SatRarity.CommandLine.Given

set_option autoImplicit false

/-! # Invocations

An invocation is what the arguments ask for: a request, and the options of the program. The events
of a level are resolved in order, and the first that asks for help or is at fault ends the reading.
Of the values of one option the last counts. A level is complete if nothing that it requires is
missing; only when all levels are, arguments that nothing took are a fault of the program.
-/

namespace SatRarity.CommandLine

/-! ## Requests -/

/-- What a command is asked to do. -/
inductive Request
  | parse (name : String)
  | code (value : Int)
  | tiers
  | derive (draft : Draft)
  deriving DecidableEq

def Request.command : Request → Command
  | parse _ => .parse
  | code _ => .code
  | tiers => .tiers
  | derive _ => .derive

/-- What is given to replace parameters of the schedule. -/
abbrev Overrides := Schedule.Parameter → Option Given

/-- What the arguments ask for. -/
structure Invocation where
  verbose : Bool
  overrides : Overrides
  request : Request

/-- Why the reading of the arguments ended without an invocation. -/
inductive Stop
  | help (level : Level)
  | misuse (level : Level) (fault : Fault)

/-! ## Settings -/

/-- What an event comes to. -/
inductive Setting
  | flag (k : Key)
  | value (k : Key) (given : Given)
  | name (text : String)
  | code (n : Int)
  | request (r : Request) (extras : List String)
  | extra (text : String)

namespace Setting

def valueOf? (k : Key) : Setting → Option Given
  | value k' given => if k' = k then some given else none
  | _ => none

def name? : Setting → Option String
  | name text => some text
  | _ => none

def code? : Setting → Option Int
  | code n => some n
  | _ => none

def request? : Setting → Option Request
  | request r _ => some r
  | _ => none

/-- The arguments that nothing took. -/
def extras : Setting → List String
  | request _ extras => extras
  | extra text => [text]
  | _ => []

def raises (k : Key) : Setting → Bool
  | flag k' => k' = k
  | _ => false

end Setting

/-- What is given last for an option. -/
def lastValue? (k : Key) (settings : List Setting) : Option Given :=
  settings.reverse.findSome? (Setting.valueOf? k)

/-! ## The arguments of a command -/

/-- What a text is read as, unless it is no integer: that is a fault of the option or operand with
the given label. -/
def readAs {α : Type} (read : String → Except Text.Numeral.Error α) (level : Level)
    (label text : String) : Except Stop α :=
  match read text with
  | .ok a => .ok a
  | .error _ => .error (.misuse level (.invalidInteger label text))

/-- The setting of an option or of an argument that is left over. -/
def resolveOption (level : Level) : Event → Except Stop Setting
  | .flag .help => .error (.help level)
  | .flag k => .ok (.flag k)
  | .value k text => do
    let given ← readAs Given.read level k.label text
    pure (.value k given)
  | .operand text _ => .ok (.extra text)
  | .extra text => .ok (.extra text)
  | .fault f => .error (.misuse level f)

/-- What an event after the command comes to. -/
def resolve (c : Command) : Event → Except Stop Setting
  | .operand text _ => match c with
    | .code => do
      let n ← readAs Text.Numeral.read (.command c) "value" text
      pure (.code n)
    | _ => .ok (.name text)
  | e => resolveOption (.command c) e

/-- The labels of the coordinate fields that are not given. -/
def missingFields (settings : List Setting) : List String :=
  (Coordinate.Field.all.filter fun f => (lastValue? (.field f) settings).isNone).map
    fun f => (Key.field f).label

/-- The request that the settings of a command make, if it is complete. -/
def Command.request (c : Command) (settings : List Setting) : Except Fault Request :=
  match c with
  | .parse => match settings.findSome? Setting.name? with
    | some text => .ok (.parse text)
    | none => .error (.missing ["name"])
  | .code => match settings.findSome? Setting.code? with
    | some n => .ok (.code n)
    | none => .error (.missing ["value"])
  | .tiers => .ok .tiers
  | .derive =>
    match lastValue? (.field .epoch) settings, lastValue? (.field .epochPosition) settings,
      lastValue? (.field .periodPosition) settings,
      lastValue? (.field .subsidyPosition) settings with
    | some epoch, some epochPosition, some periodPosition, some subsidyPosition =>
      let subsidy := lastValue? .subsidy settings
      .ok (.derive { epoch, epochPosition, periodPosition, subsidyPosition, subsidy })
    | _, _, _, _ => .error (.missing (missingFields settings))

/-- The settings of the arguments of a level. -/
def settingsOf (level : Level) (resolve : Event → Except Stop Setting) (args : List String) :
    Except Stop (List Setting) :=
  match classifyAll level args with
  | .ok tokens => (events level.awaited tokens).mapM resolve
  | .error f => .error (.misuse level f)

/-- The request that the arguments after a command make, and the arguments left over. -/
def readCommand (c : Command) (args : List String) : Except Stop Setting := do
  let settings ← settingsOf (.command c) (resolve c) args
  match c.request settings with
  | .ok r => .ok (.request r (settings.flatMap Setting.extras))
  | .error f => .error (.misuse (.command c) f)

/-! ## The arguments of the program -/

/-- What an event before the command, or the command itself, comes to. -/
def resolveProgram : Event → Except Stop Setting
  | .operand text following => match Command.ofName? text with
    | some c => readCommand c following
    | none => .error (.misuse .program (.invalidChoice text))
  | e => resolveOption .program e

/-- What the arguments ask for. -/
def Invocation.read (args : List String) : Except Stop Invocation := do
  let settings ← settingsOf .program resolveProgram args
  match settings.findSome? Setting.request? with
  | none => .error (.misuse .program (.missing ["command"]))
  | some request => match settings.flatMap Setting.extras with
    | [] => .ok {
        verbose := settings.any (Setting.raises .verbose)
        overrides := fun k => lastValue? (.parameter k) settings
        request }
    | extras => .error (.misuse .program (.unrecognized extras))

end SatRarity.CommandLine
