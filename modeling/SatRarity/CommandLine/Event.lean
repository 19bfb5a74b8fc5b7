import SatRarity.CommandLine.Argument

set_option autoImplicit false

/-! # What the arguments of a level do

Read from left to right, the classified arguments of a level do one thing after the other: they set
an option, give an operand, are left over, or are at fault. A value is the operand next to its
option. The terminator next to the one operand of a command goes with it; any other terminator is
left over, unless it stands where the program awaits its command: there it is taken for one.
-/

namespace SatRarity.CommandLine

/-- One thing that arguments do. -/
inductive Event
  | flag (k : Key)
  | value (k : Key) (text : String)
  /-- They give an operand, and the arguments that it takes along. -/
  | operand (text : String) (following : List String)
  | extra (text : String)
  | fault (f : Fault)

/-- What the classified arguments do, while the given operands are awaited. -/
def events : Awaited → List (String × Token) → List Event
  | _, [] => []
  | a, (arg, .unknown) :: rest => .extra arg :: events a rest
  | a, (_, .letters attached) :: rest =>
    match attached.dropWhile (· == 'h') with
    | [] => .flag .help :: events a rest
    | refused => [.fault (.ignoredArgument .help (String.ofList refused))]
  | a, (_, .option k (some text)) :: rest =>
    if k.takesValue then .value k text :: events a rest
    else [.fault (.ignoredArgument k text)]
  | a, (_, .option k none) :: rest =>
    if k.takesValue then
      match rest with
      | (text, .operand) :: rest => .value k text :: events a rest
      | _ => [.fault (.expectedArgument k)]
    else .flag k :: events a rest
  | .command, (arg, .operand) :: rest => [.operand arg (rest.map Prod.fst)]
  | .command, (arg, .terminator) :: next :: rest =>
    [.operand arg (next.1 :: rest.map Prod.fst)]
  | .one, (arg, .operand) :: (_, .terminator) :: rest =>
    .operand arg [] :: events .nothing rest
  | .one, (arg, .operand) :: rest => .operand arg [] :: events .nothing rest
  | .one, (_, .terminator) :: next :: rest => .operand next.1 [] :: events .nothing rest
  | a, (arg, .operand) :: rest => .extra arg :: events a rest
  | a, (arg, .terminator) :: rest => .extra arg :: events a rest

end SatRarity.CommandLine
