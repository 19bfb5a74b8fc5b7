import SatRarity.Schedule.Environment
import SatRarity.Service.Handler

set_option autoImplicit false

/-! # Sessions

A session is a run of steps that share an active schedule. A step activates a schedule, goes back
to the schedule of an environment, or handles a request. Only the first two can change the active
schedule, and they leave it as it is if there is no schedule to activate.
-/

namespace SatRarity.Service

inductive Step
  | activate (p : Schedule.Parameters)
  | reset (env : Environment)
  | request (r : Request)

inductive StepAnswer
  /-- A schedule was to be activated; this one is active now, and this error kept the other out. -/
  | activation (active : Schedule) (error : Option Schedule.Error)
  /-- A request was handled while this schedule was active. -/
  | reply (active : Schedule) (reply : Reply)

/-- The schedule that is active after one was to be activated, and what came of it. -/
def activation (active : Schedule) : Except Schedule.Error Schedule → Schedule × StepAnswer
  | .ok s => (s, .activation s none)
  | .error e => (active, .activation active (some e))

/-- The schedule that is active after a step, and what came of it. -/
def step (active : Schedule) : Step → Schedule × StepAnswer
  | .activate p => activation active (Schedule.ofParameters p)
  | .reset env => activation active (Schedule.ofEnvironment env)
  | .request r => (active, .reply active (handle active r))

/-- The schedule that is active after some steps, and what came of each. -/
def run (active : Schedule) : List Step → Schedule × List StepAnswer
  | [] => (active, [])
  | s :: rest =>
    let (active, answer) := step active s
    let (last, answers) := run active rest
    (last, answer :: answers)

theorem run_cons (active : Schedule) (s : Step) (rest : List Step) :
    run active (s :: rest)
      = ((run (step active s).1 rest).1, (step active s).2 :: (run (step active s).1 rest).2) := rfl

/-- Every step has an answer. -/
@[simp] theorem length_run (active : Schedule) (steps : List Step) :
    (run active steps).2.length = steps.length := by
  induction steps generalizing active with
  | nil => rfl
  | cons s rest ih => rw [run_cons, List.length_cons, ih, List.length_cons]

/-- Some steps and then others: the others start from the schedule that the first leave active. -/
theorem run_append (active : Schedule) (first second : List Step) :
    run active (first ++ second)
      = ((run (run active first).1 second).1,
          (run active first).2 ++ (run (run active first).1 second).2) := by
  induction first generalizing active with
  | nil => rfl
  | cons s rest ih => simp [run, ih]

/-- The answer to a step depends on the steps before it by the schedule that they leave active. -/
theorem getElem?_run (active : Schedule) (earlier : List Step) (s : Step) (later : List Step) :
    (run active (earlier ++ s :: later)).2[earlier.length]?
      = some (step (run active earlier).1 s).2 := by
  have hlength : earlier.length = (run active earlier).2.length := (length_run active earlier).symm
  rw [run_append, run_cons, hlength, List.getElem?_append_right (Nat.le_refl _), Nat.sub_self]
  rfl

/-- A session from the standard schedule. -/
def session (steps : List Step) : Schedule × List StepAnswer := run Schedule.standard steps

end SatRarity.Service
