import CloudTelemetry.Export.Action

/-!
# Exports of spans

`SpanExporter.exportBatch`: the spans of a batch that have a form are written in one call. The
resources of a batch are shared by its spans; each is mapped when the first of its spans needs it.
-/

namespace CloudTelemetry

/-- Finished spans, and the resources that they share, which may come without attributes. -/
structure SpanBatch where
  resources : List (Option (Fields Value))
  spans : List (Span × Option (Fin resources.length))

namespace SpanBatch

abbrev Mapped (count : Nat) := List (Fin count × Resource)

def mapped (batch : SpanBatch) (known : Mapped batch.resources.length)
    (index : Fin batch.resources.length) :
    Except Failure Resource × Mapped batch.resources.length :=
  match known.lookup index with
  | some resource => (.ok resource, known)
  | none =>
    match Resource.ofRecorded (batch.resources.get index) with
    | .ok resource => (.ok resource, (index, resource) :: known)
    | .error cause => (.error cause, known)

def sentSpan (batch : SpanBatch) (target : SpanTarget) (known : Mapped batch.resources.length)
    (span : Span) :
    Option (Fin batch.resources.length) → Except Failure SentSpan × Mapped batch.resources.length
  | none => (span.sent target none, known)
  | some index =>
    let (resource, known) := batch.mapped known index
    (resource.bind fun resource => span.sent target (some resource), known)

def sentSpans (batch : SpanBatch) (target : SpanTarget) (known : Mapped batch.resources.length) :
    List (Span × Option (Fin batch.resources.length)) → List (String × Except Failure SentSpan)
  | [] => []
  | (span, index) :: rest =>
    let (outcome, known) := batch.sentSpan target known span index
    (span.name, outcome) :: batch.sentSpans target known rest

def sent (batch : SpanBatch) (target : SpanTarget) : List (String × Except Failure SentSpan) :=
  batch.sentSpans target [] batch.spans

end SpanBatch

structure SpanExporter where
  target : SpanTarget
  client : Client

structure GatheredSpans where
  spans : List SentSpan
  dropped : Nat

namespace SpanExporter

def new (project : Value) (agent : Agent) (client : Client) : Except Failure SpanExporter := do
  return ⟨⟨← project.inText, agent⟩, client⟩

def projectName (exporter : SpanExporter) : String :=
  CloudTelemetry.projectName exporter.target.project

/-- Whether only the span itself is lost by a failure. -/
def losesSpan : Failure → Bool
  | .unsendable _ => true
  | _ => false

def gather : List (String × Except Failure SentSpan) → Steps (Except Failure GatheredSpans)
  | [] => return .ok ⟨[], 0⟩
  | (_, .ok span) :: rest =>
    return (← gather rest).map fun a => { a with spans := span :: a.spans }
  | (name, .error cause) :: rest =>
    if losesSpan cause then do
      Steps.log (.recordDropped .trace name cause)
      return (← gather rest).map fun a => { a with dropped := a.dropped + 1 }
    else return .error cause

def write (exporter : SpanExporter) (gathered : GatheredSpans) : Steps ExportResult := do
  let count := gathered.spans.length
  if gathered.spans.isEmpty then return .ofCounts 0 gathered.dropped
  match ← Steps.call (.writeSpans gathered.spans) with
  | .ok () =>
    Steps.log (.spansWritten count exporter.projectName)
    return .ofCounts count gathered.dropped
  | .error cause =>
    Steps.log (.writeFailed .trace count exporter.projectName cause)
    return .ofCounts 0 (gathered.dropped + count)

def send (exporter : SpanExporter) (batch : SpanBatch) : Steps (Except Failure ExportResult) := do
  match ← gather (batch.sent exporter.target) with
  | .error cause => return .error cause
  | .ok gathered => return .ok (← exporter.write gathered)

/-- Exports a batch; without one there is nothing to go through. -/
def exportBatch (exporter : SpanExporter) (batch : Option SpanBatch) : Steps ExportResult :=
  Steps.exporting .trace "span export" <|
    match batch with
    | some batch => exporter.send batch
    | none => return fails .wrongKind

def defaultFlushMillis : Nat := 30000

def forceFlush (millis : Option Value) : Steps (Except Failure Bool) :=
  Steps.flushing (millis.getD (.int defaultFlushMillis))

/-- Shuts down once nothing is in flight, however long that takes: a limit is refused. -/
def shutdown (exporter : SpanExporter) : Option Value → Steps (Except Failure Unit)
  | none => Steps.shuttingDown .trace "trace client shutdown" exporter.client .unlimited
  | some _ => return fails .wrongKind

end SpanExporter

end CloudTelemetry
