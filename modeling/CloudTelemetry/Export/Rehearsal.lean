import CloudTelemetry.Export.Metrics
import CloudTelemetry.Export.Spans

/-!
# Rehearsals

A rehearsal runs one exporter step by step against a service that follows a `Script`: the script
says which calls fail, and what the exporter is asked while a call is in progress. A call whose
deadline is no number is not even made. What the exporter calls and logs is kept. Nothing else
shares the exporter, so a wait without a limit that is not over at once is never over. Calls may
also be carried out at any other `Service` (`Stage.served`).
-/

namespace CloudTelemetry

inductive Request (Batch : Type) where
  | exportBatch (batch : Option Batch)
  | forceFlush (millis : Option Value)
  | shutdown (millis : Option Value)
  | state
  | projectName

inductive Response where
  | exported (result : ExportResult)
  | flag (b : Bool)
  | nothing
  | state (state : ExporterState)
  | name (text : String)

structure Exporter (Batch : Type) where
  projectName : String
  client : Client
  exportBatch : Option Batch → Steps ExportResult
  forceFlush : Option Value → Steps (Except Failure Bool)
  shutdown : Option Value → Steps (Except Failure Unit)

def MetricExporter.exporter (e : MetricExporter) : Exporter (List ResourceMetrics) :=
  ⟨e.projectName, e.client, e.exportBatch, MetricExporter.forceFlush, e.shutdown⟩

def SpanExporter.exporter (e : SpanExporter) : Exporter SpanBatch :=
  ⟨e.projectName, e.client, e.exportBatch, SpanExporter.forceFlush, e.shutdown⟩

def Exporter.answer {Batch : Type} (e : Exporter Batch) :
    Request Batch → Steps (Except Failure Response)
  | .exportBatch batch => return .ok (.exported (← e.exportBatch batch))
  | .forceFlush millis => return (← e.forceFlush millis).map .flag
  | .shutdown millis => return (← e.shutdown millis).map fun _ => .nothing
  | .state => return .ok (.state (← Steps.act .state))
  | .projectName => return .ok (.name e.projectName)

/-! ### Scripts -/

inductive Selection (α : Type) where
  | all
  | only (chosen : List α)

def Selection.contains {α : Type} [BEq α] (selection : Selection α) (a : α) : Bool :=
  match selection with
  | .all => true
  | .only chosen => chosen.contains a

structure Script (Batch : Type) where
  /-- types of metrics whose descriptors are refused -/
  refusedTypes : Selection String
  /-- writes that fail, counted from the start of an export -/
  failedWrites : Selection Int
  failsToClose : Bool
  incident : Incident
  duringDescriptor : List (Request Batch)
  duringWrite : List (Request Batch)

namespace Script

variable {Batch : Type}

def flawless : Script Batch := ⟨.only [], .only [], false, ⟨.api, "unavailable"⟩, [], []⟩

def refuses (script : Script Batch) (writes : Nat) : Call → Bool
  | .createDescriptor descriptor => script.refusedTypes.contains descriptor.type
  | .writeSeries _ => script.failedWrites.contains writes
  | .writeSpans _ => script.failedWrites.contains writes
  | .close => script.failsToClose

def meanwhile (script : Script Batch) : Call → List (Request Batch)
  | .createDescriptor _ => script.duringDescriptor
  | .writeSeries _ => script.duringWrite
  | .writeSpans _ => script.duringWrite
  | .close => []

end Script

structure CallRecord where
  call : Call
  meanwhile : List Response

/-! ### The stage -/

structure Stage (Batch : Type) where
  lifecycle : Lifecycle
  cache : DescriptorCache
  script : Script Batch
  /-- writes since the start of the export -/
  writes : Nat
  calls : List CallRecord
  log : List LogEntry

namespace Stage

variable {Batch : Type}

def new (cache : DescriptorCache) : Stage Batch := ⟨.initial, cache, .flawless, 0, [], []⟩

/-- A wait of a caller that is alone: one with a limit ends by it. -/
def await (stage : Stage Batch) (patience : Patience) : Option (Except Failure Bool) :=
  match stage.lifecycle.wait patience with
  | .over idle => some (.ok idle)
  | .blocked true => some (.ok false)
  | .blocked false => none
  | .refused cause => some (.error cause)

def counting (stage : Stage Batch) : Call → Stage Batch
  | .writeSeries _ => { stage with writes := stage.writes + 1 }
  | .writeSpans _ => { stage with writes := stage.writes + 1 }
  | _ => stage

abbrev Meanwhile (Batch : Type) :=
  Call → Stage Batch → Option (Except Failure (List Response) × Stage Batch)

def mayCall (client : Client) : Call → Except Failure Unit
  | .close => .ok ()
  | _ => client.deadline.toBinary64.map fun _ => ()

/-- Makes a call that can be made: it is recorded when it is made, and what goes on meanwhile comes
before its outcome. -/
def perform (meanwhile : Meanwhile Batch) (c : Call) (stage : Stage Batch) :
    Option (Except Failure Unit × Stage Batch) := do
  let failing := stage.script.refuses stage.writes c
  let incident := stage.script.incident
  let before := stage.calls
  let (responses, stage) ← meanwhile c { stage.counting c with calls := [] }
  let seen := responses.toOption.getD []
  let stage := { stage with calls := before ++ ⟨c, seen⟩ :: stage.calls }
  match responses with
  | .error cause => return (.error cause, stage)
  | .ok _ => return (if failing then .error (.incident incident) else .ok (), stage)

def call (client : Client) (meanwhile : Meanwhile Batch) (c : Call) (stage : Stage Batch) :
    Option (Except Failure Unit × Stage Batch) :=
  match mayCall client c with
  | .ok () => stage.perform meanwhile c
  | .error cause => some (.error cause, stage)

abbrev Carrier (Batch : Type) :=
  Call → Stage Batch → Option (Except Failure Unit × Stage Batch)

def served (service : Service) : Carrier Batch := fun c stage =>
  some (service (stage.calls.map CallRecord.call) c,
    { stage.counting c with calls := stage.calls ++ [⟨c, []⟩] })

def handle (carry : Carrier Batch) :
    (action : Action) → Stage Batch → Option (action.Reply × Stage Batch)
  | .beginExport, stage =>
    let (begun, lifecycle) := stage.lifecycle.beginExport
    some (begun, { stage with lifecycle := lifecycle, writes := 0 })
  | .endExport, stage => some ((), { stage with lifecycle := stage.lifecycle.endExport })
  | .isShutdown, stage => some (stage.lifecycle.isShutdown, stage)
  | .waitIdle patience, stage =>
    if stage.lifecycle.isShutdown then some (.ok false, stage)
    else (stage.await patience).map fun outcome => (outcome, stage)
  | .shutDown patience, stage =>
    if stage.lifecycle.isShutdown then some (.ok false, stage)
    else
      let stage := { stage with lifecycle := stage.lifecycle.shutDown.2 }
      (stage.await patience).map fun outcome => (outcome.map fun _ => true, stage)
  | .state, stage => some (stage.lifecycle.state, stage)
  | .claim id, stage =>
    match stage.cache.claim id with
    | .wait => none
    | .refused => some (false, stage)
    | .granted cache => some (true, { stage with cache := cache })
  | .settle id succeeded, stage =>
    some (stage.cache.remembers, { stage with cache := stage.cache.settle id succeeded })
  | .call c, stage => carry c stage
  | .log entry, stage => some ((), { stage with log := stage.log ++ [entry] })

def undisturbed : Meanwhile Batch := fun _ stage => some (.ok [], stage)

def ask (exporter : Exporter Batch) :
    List (Request Batch) → Stage Batch → Option (Except Failure (List Response) × Stage Batch)
  | [], stage => some (.ok [], stage)
  | request :: rest, stage => do
    match ← (exporter.answer request).run (handle (call exporter.client undisturbed)) stage with
    | (.error cause, stage) => return (.error cause, stage)
    | (.ok response, stage) =>
      let (responses, stage) ← ask exporter rest stage
      return (responses.map (response :: ·), stage)

/-- What the script says goes on. The calls made meanwhile are not disturbed in turn. -/
def scripted (exporter : Exporter Batch) : Meanwhile Batch := fun c stage =>
  ask exporter (stage.script.meanwhile c) stage

/-- Answers a request; calls and entries of the log are those of this request. -/
def step (exporter : Exporter Batch) (request : Request Batch) (stage : Stage Batch) :
    Option (Except Failure Response × Stage Batch) :=
  (exporter.answer request).run (handle (call exporter.client (scripted exporter)))
    { stage with calls := [], log := [] }

end Stage

end CloudTelemetry
