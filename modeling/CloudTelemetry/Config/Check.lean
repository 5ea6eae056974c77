import CloudTelemetry.Config.Data
import CloudTelemetry.Surroundings
import CloudTelemetry.Value.Number

/-!
# Checks of a configuration

`Config.problems` lists what is wrong with a configuration. A check of an option that holds no
value of its kind is a defect.
-/

namespace CloudTelemetry

/-- A deadline lies above zero and is at most `longestDeadline`. -/
def deadlineProblem? (deadline : Value) : Except Failure (Option Problem) := do
  let place ← deadline.number
  if (Place.ratio 0 1).lt place && place.le (.ratio longestDeadline 1) then return none
  deadline.checkWritable
  return some (.deadline deadline)

def checkDeadline (deadline : Value) : Except Failure Unit := do
  match ← deadlineProblem? deadline with
  | none => return ()
  | some problem => throw (.configuration (.problem problem))

def intervalProblem? (interval : Value) : Except Failure (Option Problem) := do
  return if (← interval.number).le (.ratio 0 1) then some .interval else none

def Value.asPath : Value → Except Failure Path
  | .text s => .ok (.ofText s)
  | .broken t => .ok (.ofText t.glyphs)
  | _ => fails .wrongKind

def credentialsProblem? (s : Surroundings) (file : Value) : Except Failure (Option Problem) := do
  if !file.isPresent then return none
  return if ← s.leads (← file.asPath) then none else some (.credentialsMissing file)

namespace Config

def serviceProblem? (config : Config) : Option Problem :=
  if config.serviceName.isPresent then none else some .noServiceName

def problems (s : Surroundings) (config : Config) : Except Failure (List Problem) := do
  let deadline ← deadlineProblem? config.deadline
  let interval ← intervalProblem? config.metrics.interval
  let credentials ← credentialsProblem? s config.credentialsFile
  return [config.serviceProblem?, deadline, interval, credentials].filterMap id

end Config

end CloudTelemetry
