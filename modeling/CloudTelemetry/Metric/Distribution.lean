import CloudTelemetry.Identifier
import CloudTelemetry.Metric.Data
import CloudTelemetry.Resource
import CloudTelemetry.Timestamp

/-!
# Distributions

`HistogramPoint.distribution`: a histogram in the form that is sent. There is one more bucket than
there are bounds, and at most as many exemplars as buckets are kept; counts fit in 64 bits. An
exemplar carries the name of its span and the attributes that were filtered out, where it has
them.
-/

namespace CloudTelemetry

inductive Attachment where
  | span (name : String)
  | labels (labels : List (String × String))
deriving DecidableEq, Repr

structure SentExemplar where
  value : Binary64
  time : Timestamp
  attachments : List Attachment
deriving DecidableEq, Repr

structure Distribution where
  count : Int
  mean : Binary64
  bounds : List Binary64
  bucketCounts : List Int
  exemplars : List SentExemplar
deriving DecidableEq, Repr

/-- Refuses a number beyond the signed 64-bit range; `part` names it in the failure. -/
def requireInt64 (name part : String) (value : Value) : Except Failure Unit := do
  if ← value.within leastInt64 greatestInt64 then return ()
  value.checkWritable
  throw (.unsendable (.wideInteger name part value))

namespace Exemplar

/-- The span of the measurement, where both its identifiers are there and not zero. -/
def span? (e : Exemplar) : Option SpanContext :=
  let context : SpanContext := ⟨e.traceId.getD 0, e.spanId.getD 0⟩
  if context.traceId ≠ 0 ∧ context.spanId ≠ 0 then some context else none

def labels? (e : Exemplar) : Except Failure (Option (List (String × String))) :=
  match e.filtered with
  | some filtered =>
    if filtered.isEmpty then .ok none
    else do return some (← textLabels (← labelFields filtered))
  | none => .ok none

def attachments (project : String) (e : Exemplar) : Except Failure (List Attachment) := do
  let labels ← e.labels?
  return (e.span?.map fun context => Attachment.span (spanName project context)).toList ++
    (labels.map Attachment.labels).toList

def sent (project : String) (e : Exemplar) : Except Failure SentExemplar := do
  let attachments ← e.attachments project
  let value ← e.value.toBinary64
  let time ← Timestamp.ofNanos? e.time
  return ⟨value, time, attachments⟩

end Exemplar

namespace HistogramPoint

def mean (point : HistogramPoint) : Except Failure Binary64 :=
  if point.count.isPresent then point.sum.quotient point.count else .ok Binary64.zero

def distribution (project name : String) (point : HistogramPoint) :
    Except Failure Distribution := do
  if point.counts.length ≠ point.bounds.length + 1 then
    throw (.unsendable (.buckets name point.counts.length point.bounds.length))
  requireInt64 name "count" point.count
  point.counts.forM (requireInt64 name "bucket count")
  let mean ← point.mean
  let bounds ← point.bounds.mapM Value.asDouble
  let exemplars ← (point.exemplars.take point.counts.length).mapM (Exemplar.sent project)
  let count ← point.count.asInteger
  let bucketCounts ← point.counts.mapM Value.asInteger
  return ⟨count, mean, bounds, bucketCounts, exemplars⟩

end HistogramPoint

end CloudTelemetry
