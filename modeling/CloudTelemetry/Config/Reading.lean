import CloudTelemetry.Config.Check
import CloudTelemetry.Config.Reference
import CloudTelemetry.Log
import CloudTelemetry.Text.Blank

/-!
# Reading a configuration

`Config.ofEntries`: a configuration from a mapping of options. References to variables are
replaced first. An option that cannot be read is replaced by its default and reported. In strict
mode a reference to an unknown variable and whatever the checks find is an error; in permissive
mode it is reported.
-/

namespace CloudTelemetry

abbrev Options := List (Value × Value)

namespace Options

def value (options : Options) (name : String) (default : Value) : Value :=
  (Value.entry? options name).getD default

/-- The options under a name. What is empty counts as missing, and what is no mapping is
ignored. -/
def below (options : Options) (name : String) : Report LogEntry Options :=
  let found := options.value name .null
  if !found.isPresent then return []
  else
    match found with
    | .map entries => return entries
    | _ => do
      Report.tell (.sectionIgnored name)
      return []

/-! ### Single options -/

/-- The mode of validation; an unknown one is permissive. -/
def mode (validation : Options) : Report LogEntry Mode := do
  match validation.value "mode" (.text Mode.permissive.name) with
  | .text "strict" => return .strict
  | .text "permissive" => return .permissive
  | other =>
    Report.tell (.modeUnknown other)
    return .permissive

end Options

namespace Value

def readStrategy (v : Value) : Report LogEntry String :=
  match v.written.string?.bind fun s => Strategy.ofName? s.toLower with
  | some strategy => return strategy.name
  | none => do
    Report.tell (.strategyUnknown v Strategy.sendOnce.name)
    return Strategy.sendOnce.name

/-- A number of seconds. Numbers beyond the range of binary64 are refused. -/
def readSeconds (v : Value) (option : String) (default : Value) : Report LogEntry Value :=
  match v.toBinary64 with
  | .ok x => return .float x
  | .error (.defect .outOfRange) => .fail (.defect .outOfRange)
  | .error _ => do
    Report.tell (.optionInvalid option v default)
    return default

def spelledBool? (s : String) : Option Bool :=
  match (String.ofList (Text.trimBy Text.isTrimmed s.toList)).toLower with
  | "true" => some true
  | "false" => some false
  | _ => none

/-- A truth value, or a text that spells one. Everything is on unless it says otherwise. -/
def readFlag (v : Value) (option : String) : Report LogEntry Bool :=
  let found :=
    match v with
    | .bool b => some b
    | .text s => spelledBool? s
    | _ => none
  match found with
  | some b => return b
  | none => do
    Report.tell (.optionInvalid option v (.bool true))
    return true

/-- The file of credentials. A relative path starts at the directory of the configuration, where
it has one. -/
def readCredentialsFile (v : Value) (directory : Option Path) : Report LogEntry Value :=
  match directory with
  | none => return v
  | some directory =>
    if !v.isPresent then return v
    else do
      let path ← .ofExcept v.asPath
      return if path.isAbsolute then v else .ofGlyphs (directory.join path).text

end Value

namespace Config

/-! ### Sections -/

def readMetrics (options : Options) : Report LogEntry MetricsConfig := do
  let enabled ← (options.value "enabled" (.bool true)).readFlag "metrics.enabled"
  let strategy ←
    (options.value "descriptor_strategy" (.text Strategy.sendOnce.name)).readStrategy
  let interval ← (options.value "export_interval_seconds" defaultInterval).readSeconds
    "metrics.export_interval_seconds" defaultInterval
  return {
    enabled := enabled
    typePrefix := options.value "prefix" (.text defaultTypePrefix)
    strategy := strategy
    interval := interval }

def readTrace (options : Options) : Report LogEntry TraceConfig := do
  let enabled ← (options.value "enabled" (.bool true)).readFlag "trace.enabled"
  let batch ← (options.value "batch" (.bool true)).readFlag "trace.batch"
  return ⟨enabled, batch⟩

def projectOf (s : Surroundings) : Value :=
  match s.valueOf? projectVariable with
  | some project => .text project
  | none => .null

def read (s : Surroundings) (directory : Option Path) (mode : Mode) (options : Options) :
    Report LogEntry Config := do
  let service ← options.below "service"
  let trace ← options.below "trace"
  let credentialsFile ← (options.value "credentials_file" .null).readCredentialsFile directory
  let deadline ← (options.value "deadline_seconds" defaultDeadline).readSeconds
    "deadline_seconds" defaultDeadline
  let metrics ← readMetrics (← options.below "metrics")
  let trace ← readTrace trace
  return {
    serviceName := service.value "name" (.text "")
    serviceVersion := service.value "version" .null
    project := (options.value "project_id" .null).orElse (projectOf s)
    credentialsFile := credentialsFile
    deadline := deadline
    metrics := metrics
    trace := trace
    mode := mode.name }

/-! ### The whole -/

/-- Says that a variable is unknown; strictly, that is an error. No other obstacle can be got
over. -/
def pass (mode : Mode) (obstacle : Obstacle) : Report LogEntry Unit :=
  match obstacle, mode with
  | .unknown name, .strict => .fail (.configuration (.variableUnset name))
  | .unknown name, .permissive => Report.tell (.variableUnset name)
  | .unreadable cause, _ => .fail cause
  | .endless, _ => .fail (.defect .tooDeep)

def expandOptions (s : Surroundings) (mode : Mode) (options : Options) :
    Report LogEntry Options := do
  (Value.obstaclesInEntries s.lookUp options).forM (pass mode)
  return Value.expandEntries s.lookUp options

def checked (s : Surroundings) (mode : Mode) (config : Config) : Report LogEntry Config := do
  match mode, ← .ofExcept (config.problems s) with
  | _, [] => return config
  | .strict, problems => .fail (.configuration (.problems problems))
  | .permissive, problems =>
    Report.tell (.problemsIgnored problems)
    return config

/-- A configuration from options. A mode that is forced takes precedence over the options. -/
def ofEntries (s : Surroundings) (directory : Option Path) (forced : Option Mode)
    (options : Options) : Report LogEntry Config := do
  let configured ← (← options.below "validation").mode
  let mode := forced.getD configured
  let options ← expandOptions s mode options
  checked s mode (← read s directory mode options)

end Config

end CloudTelemetry
