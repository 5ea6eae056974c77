import CloudTelemetry.Resource
import CloudTelemetry.Span.Attributes
import CloudTelemetry.Timestamp

/-!
# Spans in the cloud's form

`Span.sent`: a finished span with a valid identity in the form that is sent. Names are cut, the
first events and links up to their limits are kept, and the rest is counted.
-/

namespace CloudTelemetry

structure SentEvent where
  time : Timestamp
  description : Truncated
  attributes : AttributeMap

structure SentLink where
  traceId : String
  spanId : String
  attributes : AttributeMap

structure SentStatus where
  code : Nat
  message : String
deriving DecidableEq, Repr

structure SentSpan where
  name : String
  spanId : String
  parentSpanId : Option String
  displayName : Truncated
  start : Timestamp
  stop : Timestamp
  attributes : AttributeMap
  events : List SentEvent
  droppedEvents : Nat
  links : List SentLink
  droppedLinks : Nat
  status : Option SentStatus
  kind : String

/-- The name of a kind; an unknown one is unspecified. -/
def SpanKind.name : Option SpanKind → String
  | some .internal => "INTERNAL"
  | some .server => "SERVER"
  | some .client => "CLIENT"
  | some .producer => "PRODUCER"
  | some .consumer => "CONSUMER"
  | none => "SPAN_KIND_UNSPECIFIED"

/-- The form of a status; one that was never set is not sent. -/
def SpanStatus.sent : SpanStatus → Option SentStatus
  | .unset => none
  | .ok => some ⟨0, ""⟩
  | .error description => some ⟨2, description.getD ""⟩

def Event.sent (event : Event) : Except Failure SentEvent := do
  let time ← Timestamp.ofNanos? event.time
  let description ← Truncated.ofText event.name attributeTextLimit
  let attributes ← AttributeMap.build eventAttributeLimit event.attributes .empty none
  return ⟨time, description, attributes⟩

/-- The form of a link. A link without a context is refused. -/
def Link.sent (link : Link) : Except Failure SentLink :=
  match link.context with
  | none => fails .missingPart
  | some context => do
    let attributes ← AttributeMap.build linkAttributeLimit link.attributes .empty none
    return ⟨hexTraceId context.traceId, hexSpanId context.spanId, attributes⟩

structure SpanTarget where
  project : String
  agent : Agent

namespace Span

def validContext? (span : Span) : Option SpanContext :=
  span.context.filter SpanContext.isValid

def resourceAttributes : Option Resource → Fields Value
  | some resource => resource.spanAttributes
  | none => .empty

def parentId? (span : Span) : Option String :=
  (span.parent.filter SpanContext.isValid).map fun parent => hexSpanId parent.spanId

def sent (target : SpanTarget) (resource : Option Resource) (span : Span) :
    Except Failure SentSpan := do
  let some context := span.validContext?
    | throw (.unsendable (.invalidContext span.name))
  let some start := span.start | throw (.unsendable (.notEnded span.name))
  let some stop := span.stop | throw (.unsendable (.notEnded span.name))
  let displayName ← Truncated.ofText span.name displayNameLimit
  let startTime ← Timestamp.ofNanos start
  let stopTime ← Timestamp.ofNanos stop
  let attributes ← AttributeMap.build spanAttributeLimit span.attributes
    (resourceAttributes resource) (some target.agent)
  let events ← (span.events.take eventLimit).mapM Event.sent
  let links ← (span.links.take linkLimit).mapM Link.sent
  return {
    name := spanName target.project context
    spanId := hexSpanId context.spanId
    parentSpanId := span.parentId?
    displayName := displayName
    start := startTime
    stop := stopTime
    attributes := attributes
    events := events
    droppedEvents := span.events.length - eventLimit
    links := links
    droppedLinks := span.links.length - linkLimit
    status := span.status.sent
    kind := SpanKind.name span.kind }

end Span

end CloudTelemetry
