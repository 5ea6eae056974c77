import CloudTelemetry.Fields
import CloudTelemetry.Value

/-!
# Metrics as they are collected

A `Metric` holds the points of one instrument: numbers for gauges and sums, histograms for
histograms. What cannot be relied on is kept as it comes: times may be missing, and measurements
are values of any kind.
-/

namespace CloudTelemetry

structure Exemplar where
  value : Value
  time : Option Int
  traceId : Option Int
  spanId : Option Int
  /-- attributes of the measurement that the point does not have -/
  filtered : Option (Fields Value)

/-- Measurements counted in buckets; the last bucket is open above. -/
structure HistogramPoint where
  bounds : List Value
  counts : List Value
  sum : Value
  count : Value
  exemplars : List Exemplar

inductive Measurement where
  | number (value : Value)
  | histogram (point : HistogramPoint)

/-- One point of a metric; times are in nanoseconds since the epoch. -/
structure DataPoint where
  attributes : Option (Fields Value)
  start : Option Int
  time : Option Int
  measurement : Measurement

/-- Whether the points count from the start of the process or from the last collection. -/
inductive Temporality where
  | unspecified
  | delta
  | cumulative
deriving DecidableEq, Repr

def Temporality.name : Temporality → String
  | .unspecified => "UNSPECIFIED"
  | .delta => "DELTA"
  | .cumulative => "CUMULATIVE"

/-- The points of a metric, and how they are aggregated. Other aggregations are known by name
only. -/
inductive MetricData where
  | gauge (points : List DataPoint)
  | sum (monotonic : Bool) (temporality : Temporality) (points : List DataPoint)
  | histogram (temporality : Temporality) (points : List DataPoint)
  | other (kind : String)

def MetricData.points : MetricData → List DataPoint
  | .gauge points => points
  | .sum _ _ points => points
  | .histogram _ points => points
  | .other _ => []

structure Metric where
  name : String
  description : Option String
  unit : Option String
  data : MetricData

structure Scope where
  name : Value
  version : Value

end CloudTelemetry
