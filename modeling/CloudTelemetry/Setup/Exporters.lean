import CloudTelemetry.Config.Check
import CloudTelemetry.Export.Metrics
import CloudTelemetry.Export.Spans
import CloudTelemetry.Export.Standin
import CloudTelemetry.Setup.Credentials

/-!
# Setting up exporters

An exporter needs a usable deadline, credentials, a project and a connection. What is missing is an
error in strict mode; otherwise a stand-in takes the exporter's place.
-/

namespace CloudTelemetry

/-- An exporter, or what takes its place. -/
inductive Equipped (α : Type) where
  | exporter (e : α)
  | standin (s : Standin)

def Equipped.isConnected {α : Type} : Equipped α → Bool
  | .exporter _ => true
  | .standin _ => false

structure MetricEquipment where
  exporter : MetricExporter
  cache : DescriptorCache

namespace Config

def connect (config : Config) (cloud : Cloud) (signal : Signal) : Setup (Value × Client) := do
  .ofExcept (checkDeadline config.deadline)
  let project ← config.resolveProject cloud
  .tell (.connecting signal config.credentialSource)
  match cloud.connection with
  | .ok () =>
    .tell (.connected signal)
    return (project, ⟨config.deadline, true⟩)
  | .error cause => .fail (.incident cause)

def setupFailure (signal : Signal) (cause : Failure) : Failure :=
  if cause.isConfiguration then cause else .configuration (.setup signal cause)

/-- The connection of a signal, nothing where it failed and that is no error. -/
def tryConnect (config : Config) (cloud : Cloud) (signal : Signal) :
    Setup (Option (Value × Client)) :=
  (some <$> config.connect cloud signal).recover fun cause =>
    if config.isStrict then .fail (setupFailure signal cause)
    else do
      Setup.log (.exporterReplaced signal cause)
      return none

def metricEquipment (config : Config) (cloud : Cloud) : Setup (Equipped MetricEquipment) := do
  match ← config.tryConnect cloud .metrics with
  | none => return .standin .initial
  | some (project, client) =>
    Setup.log (.exporterConfigured .metrics project)
    let exporter ← .ofExcept
      (MetricExporter.new project config.metrics.typePrefix client)
    let cache ← .ofExcept (DescriptorCache.ofStrategy (.text config.metrics.strategy) [])
    return .exporter ⟨exporter, cache⟩

def spanEquipment (config : Config) (cloud : Cloud) : Setup (Equipped SpanExporter) := do
  match ← config.tryConnect cloud .trace with
  | none => return .standin .initial
  | some (project, client) =>
    Setup.log (.exporterConfigured .trace project)
    return .exporter (← .ofExcept (SpanExporter.new project cloud.sdk.agent client))

end Config

end CloudTelemetry
