import SatRarity.Coordinate
import SatRarity.Schedule

set_option autoImplicit false

/-! # The options and commands

The command line has a level of its own for the program and one for each command. Every level has
options, and every option has one long name, which may be cut short; only help has a letter too.
An option either takes an integer or is a flag. The program takes a command, and the command takes
all arguments that follow it; two of the commands take one operand.
-/

namespace SatRarity.CommandLine

/-! ## Options -/

inductive Key
  | help
  | verbose
  | parameter (k : Schedule.Parameter)
  | field (f : Coordinate.Field)
  | subsidy
  deriving DecidableEq

namespace Key

def longName : Key → String
  | help => "--help"
  | verbose => "--verbose"
  | parameter .halvingInterval => "--halving-interval"
  | parameter .diffchangeInterval => "--diffchange-interval"
  | parameter .initialSubsidy => "--initial-subsidy"
  | field .epoch => "--epoch"
  | field .epochPosition => "--epoch-position"
  | field .periodPosition => "--period-position"
  | field .subsidyPosition => "--subsidy-position"
  | subsidy => "--subsidy"

/-- The name in messages. -/
def label : Key → String
  | help => "-h/--help"
  | k => k.longName

/-- The option takes an integer. -/
def takesValue : Key → Bool
  | help | verbose => false
  | parameter _ | field _ | subsidy => true

end Key

/-! ## Commands -/

inductive Command
  | parse
  | code
  | tiers
  | derive
  deriving DecidableEq

namespace Command

/-- The commands in the order in which they are listed. -/
def all : List Command := [parse, code, tiers, derive]

/-- The name of a command, which is never cut short. -/
def name : Command → String
  | parse => "parse"
  | code => "code"
  | tiers => "tiers"
  | derive => "derive"

/-- The command with the given name. -/
def ofName? (text : String) : Option Command := all.find? fun c => c.name == text

end Command

/-! ## Levels -/

/-- Where an argument stands: before the command, or after it. -/
inductive Level
  | program
  | command (c : Command)
  deriving DecidableEq

/-- The operands that a level takes. -/
inductive Awaited
  | nothing
  | one
  /-- One, and with it all arguments that follow. -/
  | command
  deriving DecidableEq

namespace Level

/-- The options of a level in the order of declaration. -/
def keys : Level → List Key
  | program =>
    [.help, .verbose, .parameter .halvingInterval, .parameter .diffchangeInterval,
      .parameter .initialSubsidy]
  | command .derive =>
    [.help, .field .epoch, .field .epochPosition, .field .periodPosition,
      .field .subsidyPosition, .subsidy]
  | command .parse | command .code | command .tiers => [.help]

def awaited : Level → Awaited
  | program => .command
  | command .parse | command .code => .one
  | command .tiers | command .derive => .nothing

/-- The name of a level in messages. -/
def title : Level → String
  | program => "sat-rarity"
  | command c => "sat-rarity " ++ c.name

/-! ## Usage and help -/

/-- The lines of the usage of a level. -/
def usageLines : Level → List String
  | program =>
    ["usage: sat-rarity [-h] [--verbose] [--halving-interval HALVING_INTERVAL]",
      "                  [--diffchange-interval DIFFCHANGE_INTERVAL]",
      "                  [--initial-subsidy INITIAL_SUBSIDY]",
      "                  \x7bparse,code,tiers,derive\x7d ..."]
  | command .parse => ["usage: sat-rarity parse [-h] name"]
  | command .code => ["usage: sat-rarity code [-h] value"]
  | command .tiers => ["usage: sat-rarity tiers [-h]"]
  | command .derive =>
    ["usage: sat-rarity derive [-h] --epoch EPOCH --epoch-position EPOCH_POSITION",
      "                         --period-position PERIOD_POSITION --subsidy-position",
      "                         SUBSIDY_POSITION [--subsidy SUBSIDY]"]

/-- The lines of the help of a level that follow the usage. -/
def helpLines : Level → List String
  | program =>
    ["", "positional arguments:", "  \x7bparse,code,tiers,derive\x7d", "", "options:",
      "  -h, --help            show this help message and exit", "  --verbose",
      "  --halving-interval HALVING_INTERVAL", "  --diffchange-interval DIFFCHANGE_INTERVAL",
      "  --initial-subsidy INITIAL_SUBSIDY"]
  | command .parse =>
    ["", "positional arguments:", "  name", "", "options:",
      "  -h, --help  show this help message and exit"]
  | command .code =>
    ["", "positional arguments:", "  value", "", "options:",
      "  -h, --help  show this help message and exit"]
  | command .tiers => ["", "options:", "  -h, --help  show this help message and exit"]
  | command .derive =>
    ["", "options:", "  -h, --help            show this help message and exit", "  --epoch EPOCH",
      "  --epoch-position EPOCH_POSITION", "  --period-position PERIOD_POSITION",
      "  --subsidy-position SUBSIDY_POSITION", "  --subsidy SUBSIDY"]

def ofLines (lines : List String) : String := String.join (lines.map fun line => line ++ "\n")

def usage (level : Level) : String := ofLines level.usageLines

def help (level : Level) : String := ofLines (level.usageLines ++ level.helpLines)

end Level

end SatRarity.CommandLine
