import CloudTelemetry.Report

/-!
# The log

What the library reports while it works, as entries; `LogEntry.text` words them and
`LogEntry.level` grades them. An entry keeps the causes and numbers that it speaks of. One that
speaks of a value without a written form is told, but no line is made of it (`LogEntry.line?`).
-/

namespace CloudTelemetry

inductive LogLevel where
  | debug
  | warning
deriving DecidableEq, Repr

def LogLevel.name : LogLevel → String
  | .debug => "DEBUG"
  | .warning => "WARNING"

inductive LogEntry where
  -- while exporting
  | batchRefused (signal : Signal)
  | internalError (operation : String) (cause : Failure)
  | recordDropped (signal : Signal) (name : String) (cause : Failure)
  | descriptorRegistered (name : String)
  | writeFailed (signal : Signal) (count : Nat) (project : String) (cause : Failure)
  | seriesWritten (series metrics : Nat) (project : String)
  | spansWritten (spans : Nat) (project : String)
  | alreadyShutDown (signal : Signal)
  -- while exporters are set up
  | projectResolved (project : Value)
  | exporterConfigured (signal : Signal) (project : Value)
  | exporterReplaced (signal : Signal) (cause : Failure)
  -- while a configuration is read
  | variableUnset (name : Glyphs)
  | sectionIgnored (name : String)
  | modeUnknown (mode : Value)
  | strategyUnknown (strategy : Value) (used : String)
  | optionInvalid (option : String) (value used : Value)
  | problemsIgnored (problems : List Problem)
  -- over a session
  | alreadyInitialized
  | signalDisabled (signal : Signal)
  | initializationFailed (cause : Failure)
  | initialized (service : Value) (metrics trace : Bool)
  | providerShutDown (signal : Signal)
  | providerFailed (signal : Signal) (cause : Failure)

def Signal.recordName : Signal → String
  | .metrics => "metric"
  | .trace => "span"

def Signal.writtenName : Signal → String
  | .metrics => "time series"
  | .trace => "spans"

def Signal.serviceName : Signal → String
  | .metrics => "Cloud Monitoring"
  | .trace => "Cloud Trace"

def Signal.title : Signal → String
  | .metrics => "Metrics"
  | .trace => "Trace"

def Signal.providerName : Signal → String
  | .metrics => "MeterProvider"
  | .trace => "TracerProvider"

namespace LogEntry

def level : LogEntry → LogLevel
  | .descriptorRegistered _ => .debug
  | .seriesWritten _ _ _ => .debug
  | .spansWritten _ _ => .debug
  | .alreadyShutDown _ => .debug
  | .projectResolved _ => .debug
  | .exporterConfigured _ _ => .debug
  | .signalDisabled _ => .debug
  | .initialized _ _ _ => .debug
  | .providerShutDown _ => .debug
  | _ => .warning

def text : LogEntry → Glyphs
  | .batchRefused signal => signal.exporterName ++ " is shut down, dropping batch"
  | .internalError operation cause =>
    "gcpotel internal error in " ++ operation ++ ": " ++ cause.message
  | .recordDropped signal name cause =>
    "Dropping " ++ signal.recordName ++ " '" ++ name ++ "' from export batch: " ++ cause.message
  | .descriptorRegistered name => "Metric descriptor registered: " ++ name
  | .writeFailed signal count project cause =>
    "Failed to write " ++ toString count ++ " " ++ signal.writtenName ++ " to " ++ project ++
      ": " ++ cause.message
  | .seriesWritten series metrics project =>
    "Wrote " ++ toString series ++ " time series for " ++ toString metrics ++ " metrics to " ++
      project
  | .spansWritten spans project => "Wrote " ++ toString spans ++ " spans to " ++ project
  | .alreadyShutDown signal => signal.exporterName ++ " already shut down"
  | .projectResolved project => "Resolved Google Cloud project: " ++ project.written
  | .exporterConfigured signal project =>
    signal.serviceName ++ " exporter configured for project " ++ project.written
  | .exporterReplaced signal cause =>
    signal.exporterName ++ " setup failed, using no-op exporter: " ++ cause.message
  | .variableUnset name =>
    "Environment variable '" ++ name ++ "' is not set, substituting ''"
  | .sectionIgnored name => "Ignoring '" ++ name ++ "' section: expected a mapping"
  | .modeUnknown mode =>
    "Unknown validation mode '" ++ mode.written ++ "', using permissive"
  | .strategyUnknown strategy used =>
    "Unknown descriptor_strategy '" ++ strategy.written ++ "', using '" ++ used ++ "'"
  | .optionInvalid option value used =>
    "Invalid " ++ option ++ " '" ++ value.written ++ "', using " ++ used.written
  | .problemsIgnored problems =>
    "Configuration problems ignored in permissive mode: " ++
      (Value.list (problems.map fun problem => .ofGlyphs problem.message)).written
  | .alreadyInitialized =>
    "init() already called; keeping the installed providers. Call shutdown() first to reconfigure."
  | .signalDisabled signal => signal.title ++ " export disabled"
  | .initializationFailed cause =>
    "SDK initialization failed, telemetry disabled: " ++ cause.message
  | .initialized service metrics trace =>
    "SDK initialized for service '" ++ service.written ++ "' (metrics=" ++
      (Value.bool metrics).written ++ ", trace=" ++ (Value.bool trace).written ++ ")"
  | .providerShutDown signal => signal.providerName ++ " shutdown complete"
  | .providerFailed signal cause =>
    "Error during " ++ signal.providerName ++ " shutdown: " ++ cause.message

def values : LogEntry → List Value
  | .projectResolved project => [project]
  | .exporterConfigured _ project => [project]
  | .modeUnknown mode => [mode]
  | .strategyUnknown strategy _ => [strategy]
  | .optionInvalid _ value used => [value, used]
  | .initialized service _ _ => [service]
  | _ => []

/-- The entry as a line, if all that it speaks of can be written. -/
def line? (entry : LogEntry) : Option Glyphs :=
  if Value.allWritable entry.values then some (entry.level.name ++ ": " ++ entry.text) else none

end LogEntry

end CloudTelemetry
