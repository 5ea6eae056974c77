import CloudTelemetry.Config.Loading
import CloudTelemetry.Setup.Exporters
import CloudTelemetry.Setup.Service

/-!
# Sessions

A `Session` is the state of a process: whether telemetry is configured, and which providers are
installed. `init` installs providers, `shutdown` takes them down again; an `init` in between is
ignored, and one that fails leaves everything as it was. A provider becomes the global one of its
signal only if none has before.
-/

namespace CloudTelemetry

/-! ### Providers -/

structure MeterProvider where
  resource : Fields Value
  equipment : Equipped MetricEquipment
  /-- milliseconds between exports -/
  interval : Value
  /-- milliseconds that an export may take -/
  timeout : Value

structure TracerProvider where
  resource : Fields Value
  equipment : Equipped SpanExporter
  /-- whether spans are gathered before they are exported -/
  batch : Bool

namespace Config

def millisPerSecond : Nat := 1000

/-- The provider of meters, where metrics are enabled. Its exporter is set up before its reader. -/
def meterProvider (config : Config) (cloud : Cloud) : Setup (Option MeterProvider) := do
  if config.metrics.enabled then
    let equipment ← config.metricEquipment cloud
    let interval ← .ofExcept (config.metrics.interval.times millisPerSecond)
    let timeout ← .ofExcept (config.deadline.times millisPerSecond)
    .ofExcept (raise (cloud.sdk.checkReader interval timeout))
    return some ⟨config.resource cloud.sdk, equipment, interval, timeout⟩
  else
    Setup.log (.signalDisabled .metrics)
    return none

def tracerProvider (config : Config) (cloud : Cloud) : Setup (Option TracerProvider) := do
  if config.trace.enabled then
    return some ⟨config.resource cloud.sdk, ← config.spanEquipment cloud, config.trace.batch⟩
  else
    Setup.log (.signalDisabled .trace)
    return none

/-- The providers of both signals, nothing where their setup failed and that is no error. -/
def tryProviders (config : Config) (cloud : Cloud) :
    Setup (Option (Option MeterProvider × Option TracerProvider)) :=
  let made : Setup (Option MeterProvider × Option TracerProvider) := do
    let meter ← config.meterProvider cloud
    return (meter, ← config.tracerProvider cloud)
  (some <$> made).recover fun cause =>
    if cause.isConfiguration then .fail cause
    else if config.isStrict then .fail (.configuration (.initialization cause))
    else do
      Setup.log (.initializationFailed cause)
      return none

end Config

/-! ### Where a configuration comes from -/

inductive ConfigSource where
  | given (config : Config)
  | file (path : String)
  /-- the file that the environment names -/
  | environment

def ConfigSource.resolve (s : Surroundings) : ConfigSource → Setup Config
  | .given config => return config
  | .file path => Setup.ofLogging (Config.load s (.ofText path) none)
  | .environment =>
    match s.valueOf? configPathVariable with
    | none => .fail (.configuration .noSource)
    | some "" => .fail (.configuration .noSource)
    | some path => Setup.ofLogging (Config.load s (.ofText path) none)

/-! ### The state of a process -/

structure Installed (α : Type) where
  /-- tells it from all others of its process -/
  serial : Nat
  provider : α
  /-- what its shutdown will fail with, if it will -/
  fault : Option String

structure Session where
  configured : Bool
  meter : Option (Installed MeterProvider)
  tracer : Option (Installed TracerProvider)
  /-- the serials of the global providers -/
  globalMeter : Option Nat
  globalTracer : Option Nat
  /-- how many providers have been installed -/
  serials : Nat
  /-- how many times a shutdown at the end of the process has been asked for -/
  exitHooks : Nat

namespace Session

def initial : Session := ⟨false, none, none, none, none, 0, 0⟩

def install (session : Session) (meter : Option MeterProvider) (tracer : Option TracerProvider) :
    Session :=
  let serial := session.serials
  { configured := true
    meter := meter.map fun provider => ⟨serial, provider, none⟩
    tracer := tracer.map fun provider => ⟨serial + 1, provider, none⟩
    globalMeter := session.globalMeter.or (meter.map fun _ => serial)
    globalTracer := session.globalTracer.or (tracer.map fun _ => serial + 1)
    serials := serial + 2
    exitHooks := session.exitHooks + 1 }

def init (session : Session) (s : Surroundings) (cloud : Cloud) (source : ConfigSource) :
    Setup Unit × Session :=
  if session.configured then (Setup.log .alreadyInitialized, session)
  else
    let made : Setup (Config × Option (Option MeterProvider × Option TracerProvider)) := do
      let config ← source.resolve s
      return (config, ← config.tryProviders cloud)
    match made.outcome with
    | .error cause => (⟨made.events, .error cause⟩, session)
    | .ok (_, none) => (⟨made.events, .ok ()⟩, session.install none none)
    | .ok (config, some (meter, tracer)) =>
      let told := Setup.log (.initialized config.serviceName meter.isSome tracer.isSome)
      (⟨made.events ++ told.events, told.outcome⟩, session.install meter tracer)

/-- Takes a provider down; its connection is closed unless it fails. -/
def shutDownProvider {α : Type} (signal : Signal) (isConnected : α → Bool) :
    Option (Installed α) → List SetupEvent
  | none => []
  | some installed =>
    .takenDown signal installed.serial ::
      match installed.fault with
      | some message => [.log (.providerFailed signal (.incident ⟨.runtime, message⟩))]
      | none =>
        (if isConnected installed.provider then [.closed signal] else []) ++
          [.log (.providerShutDown signal)]

/-- Takes both providers down, whether or not the first fails. -/
def shutdown (session : Session) : List SetupEvent × Session :=
  (shutDownProvider .metrics (fun provider => provider.equipment.isConnected) session.meter ++
      shutDownProvider .trace (fun provider => provider.equipment.isConnected) session.tracer,
    { session with configured := false, meter := none, tracer := none })

def faulty {α : Type} (message : String) :
    Option (Installed α) → Except Failure (Option (Installed α))
  | some installed => .ok (some { installed with fault := some message })
  | none => fails .missingPart

def sabotage (session : Session) (message : String) : Signal → Except Failure Session
  | .metrics => do return { session with meter := ← faulty message session.meter }
  | .trace => do return { session with tracer := ← faulty message session.tracer }

end Session

end CloudTelemetry
