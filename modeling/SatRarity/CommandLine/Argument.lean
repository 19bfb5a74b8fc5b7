import SatRarity.CommandLine.Grammar
import SatRarity.Text.DecimalDigit
import SatRarity.Text.Quoted

set_option autoImplicit false

/-! # What the arguments of a level are

Before any argument is used, all of them are looked at in order. The first `--` ends the options:
it is the terminator, and all that follows is operands. An argument that begins with `-` is an
option of the level if it is the long name of one, or the beginning of the long name of exactly
one, with a value attached by `=` or without. A full name is never taken for a beginning, so that
the beginning of two names may be the name of a third option. An argument with a dash that fits no
option is an operand if it is a lone dash, looks like a negative number or has a space in it.
-/

namespace SatRarity.CommandLine

open Text

/-! ## Faults -/

/-- A wrong use of the command line. -/
inductive Fault
  /-- The argument is the beginning of several options. -/
  | ambiguous (argument : String) (candidates : List Key)
  | expectedArgument (k : Key)
  /-- The flag has a value attached. -/
  | ignoredArgument (k : Key) (text : String)
  | invalidInteger (label : String) (text : String)
  /-- The operand is no command. -/
  | invalidChoice (text : String)
  | missing (labels : List String)
  | unrecognized (arguments : List String)

def Fault.message : Fault → String
  | ambiguous argument candidates =>
    "ambiguous option: " ++ argument ++ " could match "
      ++ ", ".intercalate (candidates.map Key.longName)
  | expectedArgument k => "argument " ++ k.label ++ ": expected one argument"
  | ignoredArgument k text =>
    "argument " ++ k.label ++ ": ignored explicit argument " ++ quote text
  | invalidInteger label text => "argument " ++ label ++ ": invalid int value: " ++ quote text
  | invalidChoice text =>
    "argument command: invalid choice: " ++ quote text ++ " (choose from "
      ++ ", ".intercalate (Command.all.map fun c => quote c.name) ++ ")"
  | missing labels => "the following arguments are required: " ++ ", ".intercalate labels
  | unrecognized arguments => "unrecognized arguments: " ++ " ".intercalate arguments

/-! ## Single arguments -/

/-- What one argument is. -/
inductive Token
  /-- An operand, or the value of the option before it. -/
  | operand
  | terminator
  /-- An option of the level, with the value that `=` attaches to it. -/
  | option (k : Key) (attached : Option String)
  /-- The letter of help with more letters attached. -/
  | letters (attached : List Char)
  | unknown

/-- The text before the first equals sign, and the text after it if there is one. -/
def splitEquals (t : List Char) : List Char × Option (List Char) :=
  (t.takeWhile (· != '='), match t.dropWhile (· != '=') with
    | [] => none
    | _ :: attached => some attached)

/-- The text is a run of digits, or digits around a point with at least one after it. -/
def isPlainNumber (t : List Char) : Bool :=
  match t.dropWhile isDecimalDigit with
  | [] => !t.isEmpty
  | '.' :: fraction => !fraction.isEmpty && fraction.all isDecimalDigit
  | _ => false

/-- The text after a dash makes it a negative number; a line feed may end it. -/
def isNegativeNumber (t : List Char) : Bool :=
  isPlainNumber t || (t.getLast? == some '\n' && isPlainNumber t.dropLast)

/-- What an argument with a dash is that fits no option. -/
def classifyStray (body : List Char) : Token :=
  if isNegativeNumber body || body.contains ' ' then .operand else .unknown

/-- What an argument is that begins with two dashes. -/
def classifyLong (level : Level) (arg : String) : Except Fault Token :=
  let (stem, attached) := splitEquals arg.toList
  let attached := attached.map String.ofList
  match level.keys.find? fun k => k.longName.toList == stem with
  | some k => .ok (.option k attached)
  | none => match level.keys.filter fun k => stem.isPrefixOf k.longName.toList with
    | [] => .ok (classifyStray (arg.toList.drop 1))
    | [k] => .ok (.option k attached)
    | candidates => .error (.ambiguous arg candidates)

/-- What an argument is, before the terminator. -/
def classify (level : Level) (arg : String) : Except Fault Token :=
  match arg.toList with
  | ['-', 'h'] => .ok (.option .help none)
  | ['-', 'h', '='] => .ok (.option .help (some ""))
  | '-' :: 'h' :: '=' :: attached => .ok (.letters attached)
  | '-' :: 'h' :: attached => .ok (.letters attached)
  | '-' :: '-' :: _ => classifyLong level arg
  | '-' :: c :: rest => .ok (classifyStray (c :: rest))
  | _ => .ok .operand

/-! ## All arguments -/

def classifyAll (level : Level) : List String → Except Fault (List (String × Token))
  | [] => .ok []
  | arg :: rest =>
    if arg = "--" then .ok ((arg, .terminator) :: rest.map fun arg => (arg, .operand))
    else do
      let token ← classify level arg
      let tokens ← classifyAll level rest
      pure ((arg, token) :: tokens)

end SatRarity.CommandLine
