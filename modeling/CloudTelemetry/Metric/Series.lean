import CloudTelemetry.Metric.Descriptor
import CloudTelemetry.Metric.Distribution

/-!
# Metrics in the cloud's form

`MetricTarget.recordOf`: a metric becomes one descriptor and one time series a point, in the
order of the points. A metric without points becomes nothing. Gauges have an instant, what counts
has an interval.
-/

namespace CloudTelemetry

inductive TypedValue where
  | int64 (n : Int)
  | double (x : Binary64)
  | distribution (d : Distribution)
deriving DecidableEq, Repr

/-- A point in the form that is sent; an instant has no start. -/
structure SeriesPoint where
  start : Option Timestamp
  stop : Timestamp
  value : TypedValue
deriving DecidableEq, Repr

structure TimeSeries where
  type : String
  labels : List (String × String)
  resource : MonitoredResource
  kind : MetricKind
  point : SeriesPoint
deriving DecidableEq, Repr

structure MetricRecord where
  identity : Identity
  descriptor : Descriptor
  series : List TimeSeries
deriving DecidableEq, Repr

def seriesCount (records : List MetricRecord) : Nat :=
  (records.flatMap MetricRecord.series).length

def defaultTypePrefix : String := "workload.googleapis.com"

def scopeNameLabel : String := "instrumentation_source"

def scopeVersionLabel : String := "instrumentation_version"

/-- The labels of a point: its attributes, then the two labels of the scope, where the attributes
have not taken their names. -/
def pointLabels (attributes : Option (Fields Value)) (scope : Option Scope) :
    Except Failure (List (String × String)) := do
  let own ← labelFields (attributes.getD .empty)
  let name := (scope.map Scope.name).getD (.text "")
  let version := ((scope.map Scope.version).getD (.text "")).orElse (.text "")
  textLabels ((own.setDefault scopeNameLabel name).setDefault scopeVersionLabel version)

structure MetricTarget where
  project : String
  typePrefix : String
deriving DecidableEq, Repr

namespace MetricTarget

/-- The target for a configured prefix, which loses its slashes at the end. -/
def new (project : String) : Value → Except Failure MetricTarget
  | .text typePrefix =>
    .ok ⟨project, String.ofList (Text.trimEndBy (· == '/') typePrefix.toList)⟩
  | .broken typePrefix =>
    .ok ⟨project, String.ofList (Text.trimEndBy (· == '/') typePrefix.glyphs.shown.toList)⟩
  | .bytes _ => fails .wrongKind
  | _ => fails .missingPart

/-- The value of a point, of the type that its metric was given. A histogram is a distribution
whatever that type. -/
def typedValue (target : MetricTarget) (name : String) (valueType : ValueType) :
    Measurement → Except Failure TypedValue
  | .histogram point => return .distribution (← point.distribution target.project name)
  | .number value =>
    match valueType with
    | .int64 => do
      let n ← value.toInt
      requireInt64 name "value" (.int n)
      return .int64 n
    | _ => return .double (← value.toBinary64)

def seriesPoint (target : MetricTarget) (name : String) (kind : MetricKind)
    (valueType : ValueType) (point : DataPoint) : Except Failure SeriesPoint := do
  let stop ← Timestamp.ofNanos? point.time
  let start ←
    match kind with
    | .cumulative => some <$> Timestamp.ofNanos? point.start
    | .gauge => pure none
  let value ← target.typedValue name valueType point.measurement
  return ⟨start, stop, value⟩

def series (target : MetricTarget) (scope : Option Scope) (resource : MonitoredResource)
    (descriptor : Descriptor) (point : DataPoint) : Except Failure TimeSeries := do
  let labels ← pointLabels point.attributes scope
  let sent ← target.seriesPoint descriptor.displayName descriptor.kind descriptor.valueType
    point
  return ⟨descriptor.type, labels, resource, descriptor.kind, sent⟩

/-- What is sent for a metric, nothing where it has no points. -/
def recordOf (target : MetricTarget) (scope : Option Scope) (resource : Resource)
    (metric : Metric) : Except Failure (Option MetricRecord) := do
  let kind ← metric.data.kind metric.name
  match metric.data.points with
  | [] => return none
  | first :: rest =>
    let valueType ← metric.data.valueType first
    let descriptor := metric.descriptor target.typePrefix kind valueType first
    let monitored ← resource.monitored
    let series ← (first :: rest).mapM (target.series scope monitored descriptor)
    return some ⟨metric.identity kind, descriptor, series⟩

end MetricTarget

end CloudTelemetry
