import CloudTelemetry.Lifecycle
import CloudTelemetry.Log
import CloudTelemetry.Metric.Series
import CloudTelemetry.Procedure
import CloudTelemetry.Registration
import CloudTelemetry.Span.Sent

/-!
# What exporters do

An exporter works through actions on what it shares with others: its life, the cache of
descriptors, the service and the log. `Steps` are procedures over these actions. Each action but
`call` is atomic; a call is in progress from the moment it is made until its reply.
-/

namespace CloudTelemetry

inductive ExportResult where
  | success
  | failure
deriving DecidableEq, Repr

def ExportResult.name : ExportResult → String
  | .success => "SUCCESS"
  | .failure => "FAILURE"

/-- A batch has failed where something in it failed and nothing got through. -/
def ExportResult.ofCounts (written failed : Nat) : ExportResult :=
  if failed != 0 && written == 0 then .failure else .success

/-! ### Calls -/

inductive Call where
  | createDescriptor (descriptor : Descriptor)
  | writeSeries (series : List TimeSeries)
  | writeSpans (spans : List SentSpan)
  | close

def Call.name : Call → String
  | .createDescriptor _ => "create_metric_descriptor"
  | .writeSeries _ => "create_time_series"
  | .writeSpans _ => "batch_write_spans"
  | .close => "close"

/-- A failure of a call, as exporters see it: what the service's interface reports of a request is
a failure of the transport, everything else passes as it is. -/
def Call.seen (call : Call) (cause : Failure) : Failure :=
  match call, cause with
  | .close, cause => cause
  | call, .incident ⟨.api, message⟩ => .transport call.name message
  | _, cause => cause

/-- How the service answers the calls of one caller: each call by those that came before it. -/
abbrev Service := List Call → Call → Except Failure Unit

@[simp] theorem isOk_ok (u : Unit) : (Except.ok u : Except Failure Unit).isOk = true := rfl

@[simp] theorem isOk_error (cause : Failure) :
    (Except.error cause : Except Failure Unit).isOk = false := rfl

def Service.replies (service : Service) : List Call → List Call → List (Call × Except Failure Unit)
  | _, [] => []
  | past, c :: rest => (c, service past c) :: service.replies (past ++ [c]) rest

theorem Service.replies_append (service : Service) (past a b : List Call) :
    service.replies past (a ++ b) = service.replies past a ++ service.replies (past ++ a) b := by
  induction a generalizing past with
  | nil => simp [Service.replies]
  | cons c a ih => simp [Service.replies, ih]

theorem Service.length_replies (service : Service) (past cs : List Call) :
    (service.replies past cs).length = cs.length := by
  induction cs generalizing past with
  | nil => rfl
  | cons c cs ih => simp [Service.replies, ih]

theorem Service.eq_of_mem_replies {service : Service} {past cs : List Call}
    {x : Call × Except Failure Unit} (h : x ∈ service.replies past cs) :
    ∃ before, x.2 = service before x.1 := by
  induction cs generalizing past with
  | nil => cases h
  | cons c cs ih =>
    rcases List.mem_cons.1 h with rfl | h
    · exact ⟨past, rfl⟩
    · exact ih h

structure Client where
  /-- how long a call may take, in seconds -/
  deadline : Value
  /-- whether there is something to close -/
  closable : Bool

/-! ### Actions -/

/-- What an exporter asks of its surroundings. -/
inductive Action where
  | beginExport
  | endExport
  | isShutdown
  | waitIdle (patience : Patience)
  | shutDown (patience : Patience)
  | state
  | claim (id : Identity)
  | settle (id : Identity) (succeeded : Bool)
  | call (call : Call)
  | log (entry : LogEntry)

/-- What an action replies. A wait may be refused. A settled claim says whether the cache
remembers. -/
@[reducible] def Action.Reply : Action → Type
  | .beginExport => Bool
  | .endExport => Unit
  | .isShutdown => Bool
  | .waitIdle _ => Except Failure Bool
  | .shutDown _ => Except Failure Bool
  | .state => ExporterState
  | .claim _ => Bool
  | .settle _ _ => Bool
  | .call _ => Except Failure Unit
  | .log _ => Unit

instance Action.nonempty_reply (a : Action) : Nonempty a.Reply := by
  cases a with
  | beginExport | isShutdown | claim | settle => exact ⟨true⟩
  | endExport | log => exact ⟨()⟩
  | waitIdle | shutDown => exact ⟨.ok true⟩
  | state => exact ⟨.ready⟩
  | call => exact ⟨.ok ()⟩

abbrev Steps := Procedure Action Action.Reply

abbrev Trace := List (Exchange Action Action.Reply)

def Exchange.call? : Exchange Action Action.Reply → Option (Call × Except Failure Unit)
  | ⟨.call c, outcome⟩ => some (c, outcome)
  | _ => none

def Trace.calls (t : Trace) : List (Call × Except Failure Unit) := t.filterMap Exchange.call?

theorem Trace.calls_append (t u : Trace) : Trace.calls (t ++ u) = t.calls ++ u.calls :=
  List.filterMap_append

theorem Trace.mem_calls {t : Trace} {c : Call} {outcome : Except Failure Unit} :
    (c, outcome) ∈ t.calls ↔ ⟨.call c, outcome⟩ ∈ t := by
  unfold Trace.calls
  rw [List.mem_filterMap]
  constructor
  · rintro ⟨⟨a, reply⟩, hx, heq⟩
    cases a with
    | call d =>
      cases heq
      exact hx
    | _ => cases heq
  · exact fun hx => ⟨_, hx, rfl⟩

namespace Steps

def act (action : Action) : Steps action.Reply := Procedure.request action

def log (entry : LogEntry) : Steps Unit := act (.log entry)

def call (c : Call) : Steps (Except Failure Unit) := do
  return (← act (.call c)).mapError c.seen

/-- An export of one batch: refused after a shutdown, and otherwise in flight until it ends. A
failure that is not of a single record is reported, and the batch has failed. -/
def exporting (signal : Signal) (operation : String)
    (batch : Steps (Except Failure ExportResult)) : Steps ExportResult := do
  if ← act .beginExport then
    let result ←
      match ← batch with
      | .ok result => pure result
      | .error cause => do
        log (.internalError operation cause)
        pure .failure
    act .endExport
    return result
  else
    log (.batchRefused signal)
    return .failure

def flushing (millis : Value) : Steps (Except Failure Bool) :=
  match Patience.ofMillis millis with
  | .ok patience => act (.waitIdle patience)
  | .error cause => pure (.error cause)

/-- A shutdown: the first closes the connection, any other has nothing left to do. -/
def shuttingDown (signal : Signal) (operation : String) (client : Client) (patience : Patience) :
    Steps (Except Failure Unit) := do
  match ← act (.shutDown patience) with
  | .error cause => return .error cause
  | .ok false =>
    log (.alreadyShutDown signal)
    return .ok ()
  | .ok true =>
    if client.closable then
      match ← call .close with
      | .ok () => return .ok ()
      | .error cause =>
        log (.internalError operation cause)
        return .ok ()
    else return .ok ()

end Steps

end CloudTelemetry
