import CloudTelemetry.Fields
import CloudTelemetry.Identifier
import CloudTelemetry.Value

/-!
# Spans as they are recorded

A `Span` holds what was recorded while it was open: attributes, events, links to other spans, and
how it ended. The recorder may itself have dropped attributes; it says how many.
-/

namespace CloudTelemetry

/-- Attributes as recorded, and how many more the recorder dropped. Some records have none. -/
structure RecordedAttributes where
  kept : Option (Fields Value)
  dropped : Int

structure Event where
  name : String
  time : Option Int
  attributes : RecordedAttributes

structure Link where
  context : Option SpanContext
  attributes : RecordedAttributes

inductive SpanKind where
  | internal
  | server
  | client
  | producer
  | consumer
deriving DecidableEq, Repr

inductive SpanStatus where
  | unset
  | ok
  | error (description : Option String)
deriving DecidableEq, Repr

structure Span where
  name : String
  context : Option SpanContext
  parent : Option SpanContext
  attributes : RecordedAttributes
  events : List Event
  links : List Link
  kind : Option SpanKind
  status : SpanStatus
  start : Option Int
  stop : Option Int

end CloudTelemetry
