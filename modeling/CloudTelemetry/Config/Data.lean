import CloudTelemetry.Metric.Series
import CloudTelemetry.Registration

/-!
# Configurations

A `Config` says what is exported, where to and how. Options that are only passed on keep whatever
value they were given.
-/

namespace CloudTelemetry

def seconds (n : Nat) : Value := .float (Binary64.ofInt n)

def defaultDeadline : Value := seconds 10

def defaultInterval : Value := seconds 60

structure MetricsConfig where
  enabled : Bool := true
  typePrefix : Value := .text defaultTypePrefix
  strategy : String := Strategy.sendOnce.name
  /-- seconds between exports -/
  interval : Value := defaultInterval

structure TraceConfig where
  enabled : Bool := true
  /-- whether spans are gathered before they are exported -/
  batch : Bool := true

inductive Mode where
  | strict
  | permissive
deriving DecidableEq, Repr

def Mode.name : Mode → String
  | .strict => "strict"
  | .permissive => "permissive"

structure Config where
  serviceName : Value
  serviceVersion : Value := .null
  project : Value := .null
  credentialsFile : Value := .null
  /-- seconds that a call may take -/
  deadline : Value := defaultDeadline
  metrics : MetricsConfig := {}
  trace : TraceConfig := {}
  mode : String := Mode.permissive.name

def Config.isStrict (config : Config) : Bool := config.mode == Mode.strict.name

end CloudTelemetry
