import CloudTelemetry.Export.Action

/-!
# Exports of metrics

`MetricExporter.exportBatch`: every metric of a batch is put in the cloud's form and its descriptor
registered where the cache asks for it; the series of what is left are written in runs of
`seriesPerWrite`. A metric that has no form, or whose registration fails, is dropped alone.
-/

namespace CloudTelemetry

/-! ### Runs -/

/-- The rest of a run with room for `room` more elements, and the runs after it. -/
def splitRun {α : Type} (size : Nat) : Nat → List α → List α × List (List α)
  | _, [] => ([], [])
  | 0, x :: rest =>
    let (run, later) := splitRun size (size - 1) rest
    ([], (x :: run) :: later)
  | room + 1, x :: rest =>
    let (run, later) := splitRun size room rest
    (x :: run, later)

/-- The elements in runs of `size`, the last of which may be shorter. -/
def runsOf {α : Type} (size : Nat) (items : List α) : List (List α) := (splitRun size 0 items).2

/-- The service takes at most this many series at once. -/
def seriesPerWrite : Nat := 200

/-! ### Batches -/

structure ScopeMetrics where
  scope : Option Scope
  metrics : List Metric

/-- The metrics of one resource, by library. A resource may come without attributes. -/
structure ResourceMetrics where
  attributes : Option (Fields Value)
  scopes : List ScopeMetrics

inductive Candidate where
  | metric (name : String) (outcome : Except Failure (Option MetricRecord))
  | unmapped (cause : Failure)

namespace MetricTarget

def scopeCandidates (target : MetricTarget) (resource : Resource) (metrics : ScopeMetrics) :
    List Candidate :=
  metrics.metrics.map fun metric =>
    .metric metric.name (target.recordOf metrics.scope resource metric)

def resourceCandidates (target : MetricTarget) (metrics : ResourceMetrics) :
    List Candidate :=
  match Resource.ofRecorded metrics.attributes with
  | .ok resource => metrics.scopes.flatMap (target.scopeCandidates resource)
  | .error cause => [.unmapped cause]

def candidates (target : MetricTarget) (batch : List ResourceMetrics) : List Candidate :=
  batch.flatMap target.resourceCandidates

end MetricTarget

/-! ### Exports -/

structure MetricExporter where
  target : MetricTarget
  client : Client

structure Gathered where
  records : List MetricRecord
  dropped : Nat

inductive Verdict where
  | nothing
  | accepted (record : MetricRecord)
  | dropped
  /-- the whole batch ends here -/
  | fatal (cause : Failure)

namespace MetricExporter

/-- The exporter for a project, which is named before the prefix is looked at. -/
def new (project typePrefix : Value) (client : Client) : Except Failure MetricExporter := do
  let project ← project.inText
  return ⟨← MetricTarget.new project typePrefix, client⟩

def projectName (exporter : MetricExporter) : String :=
  CloudTelemetry.projectName exporter.target.project

def ensureDescriptor (record : MetricRecord) : Steps (Except Failure Unit) := do
  if ← Steps.act (.claim record.identity) then
    match ← Steps.call (.createDescriptor record.descriptor) with
    | .ok () =>
      if ← Steps.act (.settle record.identity true) then
        Steps.log (.descriptorRegistered record.identity.name)
      return .ok ()
    | .error cause =>
      let _ ← Steps.act (.settle record.identity false)
      return .error (.registration record.descriptor.type cause)
  else return .ok ()

/-- A record that failed is dropped if the failure is its own. -/
def drop (name : String) (cause : Failure) : Steps Verdict :=
  if cause.concernsRecord then do
    Steps.log (.recordDropped .metrics name cause)
    return .dropped
  else return .fatal cause

def judge : Candidate → Steps Verdict
  | .unmapped cause => return .fatal cause
  | .metric name (.error cause) => drop name cause
  | .metric _ (.ok none) => return .nothing
  | .metric name (.ok (some record)) => do
    match ← ensureDescriptor record with
    | .ok () => return .accepted record
    | .error cause => drop name cause

def gather : List Candidate → Steps (Except Failure Gathered)
  | [] => return .ok ⟨[], 0⟩
  | candidate :: rest => do
    match ← judge candidate with
    | .fatal cause => return .error cause
    | .nothing => gather rest
    | .accepted record =>
      return (← gather rest).map fun a => { a with records := record :: a.records }
    | .dropped => return (← gather rest).map fun a => { a with dropped := a.dropped + 1 }

def indexedSeries (records : List MetricRecord) : List (Nat × TimeSeries) :=
  records.zipIdx.flatMap fun record => record.1.series.map fun series => (record.2, series)

/-- Writes run after run; returns the indexes of records with a series in a run that failed. -/
def writeRuns (exporter : MetricExporter) :
    List (List (Nat × TimeSeries)) → Steps (List Nat)
  | [] => return []
  | run :: rest => do
    match ← Steps.call (.writeSeries (run.map Prod.snd)) with
    | .ok () => exporter.writeRuns rest
    | .error cause =>
      Steps.log (.writeFailed .metrics run.length exporter.projectName cause)
      return run.map Prod.fst ++ (← exporter.writeRuns rest)

def write (exporter : MetricExporter) (records : List MetricRecord) : Steps (Nat × Nat) := do
  let hit ← exporter.writeRuns (runsOf seriesPerWrite (indexedSeries records))
  let failed := (List.range records.length).countP hit.contains
  let written := records.length - failed
  if !records.isEmpty then
    Steps.log (.seriesWritten (seriesCount records) written exporter.projectName)
  return (written, failed)

def send (exporter : MetricExporter) (batch : List ResourceMetrics) :
    Steps (Except Failure ExportResult) := do
  match ← gather (exporter.target.candidates batch) with
  | .error cause => return .error cause
  | .ok gathered =>
    let (written, failed) ← exporter.write gathered.records
    return .ok (.ofCounts written (gathered.dropped + failed))

/-- Exports a batch; without one there is nothing to go through. -/
def exportBatch (exporter : MetricExporter) (batch : Option (List ResourceMetrics)) :
    Steps ExportResult :=
  Steps.exporting .metrics "metric export" <|
    match batch with
    | some batch => exporter.send batch
    | none => return fails .missingPart

def defaultFlushMillis : Nat := 10000

def defaultShutdownMillis : Nat := 30000

def forceFlush (millis : Option Value) : Steps (Except Failure Bool) :=
  Steps.flushing (millis.getD (.int defaultFlushMillis))

def shutdown (exporter : MetricExporter) (millis : Option Value) : Steps (Except Failure Unit) :=
  match Patience.ofMillis (millis.getD (.int defaultShutdownMillis)) with
  | .ok patience => Steps.shuttingDown .metrics "metric client shutdown" exporter.client patience
  | .error cause => return .error cause

end MetricExporter

end CloudTelemetry
