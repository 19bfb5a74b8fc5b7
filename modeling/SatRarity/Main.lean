import SatRarity.CommandLine.Run

set_option autoImplicit false

/-! # The program

Reads the variables of the environment that a schedule may come from, runs the command line on the
arguments, writes what the run leaves behind and ends with its code. An error that nobody handles is
written and ends the process with the code 1.
-/

namespace SatRarity.CommandLine

/-- The variables of a schedule that are set. -/
def scheduleVariables : IO (List (String × String)) := do
  let found ← Schedule.Parameter.all.mapM fun k => do
    let value ← IO.getEnv k.variable
    pure (value.map fun v => (k.variable, v))
  pure (found.filterMap id)

/-- Runs the command line as a process. -/
def runProcess (args : List String) : IO UInt32 := do
  let assigned ← scheduleVariables
  let t := (run (fun name => assigned.lookup name) args).transcript .started
  IO.print t.stdout
  IO.eprint t.stderr
  match t.status with
  | .returned code | .exited code => pure (UInt32.ofNat code)
  | .failed e => do
    IO.eprintln ("TypeError: " ++ e.message)
    pure 1
  | .overflowed => do
    IO.eprintln ("ValueError: " ++ Text.limitMessage "")
    pure 1

end SatRarity.CommandLine

def main (args : List String) : IO UInt32 := SatRarity.CommandLine.runProcess args
