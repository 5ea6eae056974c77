import CloudTelemetry.Metric.Data
import CloudTelemetry.Value.Number

/-!
# Metric descriptors

A `Descriptor` declares a type of metric to the cloud before its series are written: its kind, the
type of its values and the keys of its labels. An `Identity` is what a registration is remembered
by.
-/

namespace CloudTelemetry

inductive MetricKind where
  | gauge
  | cumulative
deriving DecidableEq, Repr

def MetricKind.name : MetricKind → String
  | .gauge => "GAUGE"
  | .cumulative => "CUMULATIVE"

inductive ValueType where
  | int64
  | double
  | distribution
deriving DecidableEq, Repr

def ValueType.name : ValueType → String
  | .int64 => "INT64"
  | .double => "DOUBLE"
  | .distribution => "DISTRIBUTION"

structure Identity where
  name : String
  kind : String
  unit : String
deriving DecidableEq, Repr

/-- A declared type of metric. All labels are text. -/
structure Descriptor where
  type : String
  displayName : String
  description : String
  unit : String
  kind : MetricKind
  valueType : ValueType
  labels : List String
deriving DecidableEq, Repr

def Descriptor.identity (descriptor : Descriptor) : Identity :=
  ⟨descriptor.displayName, descriptor.kind.name, descriptor.unit⟩

namespace MetricData

/-- The kind of the metric. Sums that may fall are gauges; what counts must count from the start
of the process. -/
def kind (name : String) : MetricData → Except Failure MetricKind
  | .gauge _ => .ok .gauge
  | .sum false _ _ => .ok .gauge
  | .sum true .cumulative _ => .ok .cumulative
  | .sum true temporality _ => .error (.unsendable (.temporality "Sum" name temporality.name))
  | .histogram .cumulative _ => .ok .cumulative
  | .histogram temporality _ =>
    .error (.unsendable (.temporality "Histogram" name temporality.name))
  | .other kind => .error (.unsendable (.dataKind name kind))

/-- The type of the values, told by the first point: an integer there makes all of them
integers. -/
def valueType (first : DataPoint) : MetricData → Except Failure ValueType
  | .histogram _ _ => .ok .distribution
  | _ =>
    match first.measurement with
    | .number (.int _) => .ok .int64
    | .number _ => .ok .double
    | .histogram _ => fails .missingPart

end MetricData

namespace Metric

def typeUnder (typePrefix name : String) : String := typePrefix ++ "/" ++ name

def unitText (metric : Metric) : String := metric.unit.getD ""

def attributeNames (point : DataPoint) : List String :=
  match point.attributes with
  | some attributes => attributes.names
  | none => []

def descriptor (metric : Metric) (typePrefix : String) (kind : MetricKind) (valueType : ValueType)
    (first : DataPoint) : Descriptor where
  type := typeUnder typePrefix metric.name
  displayName := metric.name
  description := metric.description.getD ""
  unit := metric.unitText
  kind := kind
  valueType := valueType
  labels := attributeNames first

def identity (metric : Metric) (kind : MetricKind) : Identity :=
  ⟨metric.name, kind.name, metric.unitText⟩

end Metric

end CloudTelemetry
