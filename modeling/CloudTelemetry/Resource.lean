import CloudTelemetry.Fields
import CloudTelemetry.Value.Number

/-!
# Monitored resources

`Resource.ofAttributes`: the cloud's name for what produced the telemetry. The attribute
`cloud.platform` selects a table of label rules, one table for all unknown platforms; each rule
names one label and the attributes that may supply it, in order of priority. A label may hold half
of a character; it is refused where the label is sent.
-/

namespace CloudTelemetry

/-! ### Labels -/

namespace Value

/-- The text of a label: truth values are written in small letters. -/
def labelText : Value → Glyphs
  | .bool b => if b then "true" else "false"
  | value => value.written

/-- The value as a label. One that has no written form is refused. -/
def label (v : Value) : Except Failure Glyphs := do
  v.checkWritable
  return v.labelText

end Value

def labelFields (attributes : Fields Value) : Except Failure (Fields Value) := do
  attributes.entries.forM fun entry => entry.2.checkWritable
  return attributes.map fun value => .ofGlyphs value.labelText

def textLabel (entry : String × Value) : Except Failure (String × String) :=
  return (entry.1, ← entry.2.asText)

/-- Labels in the form that is sent. One that is no text is refused. -/
def textLabels (labels : Fields Value) : Except Failure (List (String × String)) :=
  labels.entries.mapM textLabel

/-! ### Resources -/

structure LabelRule where
  label : String
  /-- attributes that may supply the value, the preferred one first -/
  sources : List String
  /-- the value where no attribute supplies one; without it the label is left out -/
  fallback : Option String
deriving DecidableEq, Repr

namespace LabelRule

def supplied? (rule : LabelRule) (attributes : Fields Value) : Option Value :=
  rule.sources.findSome? fun source =>
    match attributes.get? source with
    | some .null => none
    | found => found

def default (rule : LabelRule) : Option Glyphs := rule.fallback.map Glyphs.ofString

def resolve (rule : LabelRule) (attributes : Fields Value) : Except Failure (Option Glyphs) :=
  match rule.supplied? attributes with
  | some value => some <$> value.label
  | none => .ok rule.default

/-- The value of the label, where there may be no attributes to look at. -/
def resolveRecorded (rule : LabelRule) (attributes : Option (Fields Value)) :
    Except Failure (Option Glyphs) :=
  match attributes with
  | some attributes => rule.resolve attributes
  | none => if rule.sources.isEmpty then .ok rule.default else fails .missingPart

def labelled? (rule : LabelRule) (attributes : Fields Value) :
    Except Failure (Option (String × Value)) := do
  return (← rule.resolve attributes).map fun value => (rule.label, .ofGlyphs value)

end LabelRule

structure Resource where
  type : String
  labels : Fields Value

namespace Resource

def platformKey : String := "cloud.platform"

structure Table where
  type : String
  rules : List LabelRule
deriving DecidableEq, Repr

def instanceTable : Table where
  type := "gce_instance"
  rules := [
    ⟨"zone", ["cloud.availability_zone"], none⟩,
    ⟨"instance_id", ["host.id"], none⟩]

def containerTable : Table where
  type := "k8s_container"
  rules := [
    ⟨"location", ["cloud.availability_zone", "cloud.region"], none⟩,
    ⟨"cluster_name", ["k8s.cluster.name"], none⟩,
    ⟨"namespace_name", ["k8s.namespace.name"], none⟩,
    ⟨"container_name", ["k8s.container.name"], none⟩,
    ⟨"pod_name", ["k8s.pod.name"], none⟩]

def foreignInstanceTable : Table where
  type := "aws_ec2_instance"
  rules := [
    ⟨"instance_id", ["host.id"], none⟩,
    ⟨"region", ["cloud.availability_zone"], none⟩,
    ⟨"aws_account", ["cloud.account.id"], none⟩]

def applicationTable : Table where
  type := "gae_instance"
  rules := [
    ⟨"module_id", ["faas.name"], none⟩,
    ⟨"version_id", ["faas.version"], none⟩,
    ⟨"instance_id", ["faas.id"], none⟩,
    ⟨"location", ["cloud.region"], none⟩]

/-- The table of every other platform. All its rules have a fallback. -/
def genericTable : Table where
  type := "generic_task"
  rules := [
    ⟨"location", ["cloud.availability_zone", "cloud.region"], some "global"⟩,
    ⟨"namespace", ["service.namespace"], some ""⟩,
    ⟨"job", ["service.name"], some ""⟩,
    ⟨"task_id", ["service.instance.id", "faas.id"], some ""⟩]

def platforms : List (String × Table) := [
  ("gcp_compute_engine", instanceTable),
  ("gcp_kubernetes_engine", containerTable),
  ("aws_ec2", foreignInstanceTable),
  ("gcp_app_engine", applicationTable)]

def tableOf : Option Value → Table
  | some (.text platform) => (platforms.lookup platform).getD genericTable
  | _ => genericTable

def labelsOf (rules : List LabelRule) (attributes : Fields Value) :
    Except Failure (Fields Value) := do
  let labels ← rules.mapM fun rule => rule.labelled? attributes
  return .ofList (labels.filterMap id)

/-- The resource that the attributes describe. A platform that cannot be looked up is refused, and
so is a label without a written form. -/
def ofAttributes (attributes : Fields Value) : Except Failure Resource :=
  let platform := attributes.get? platformKey
  if (platform.getD .null).mayBeKey then do
    let table := tableOf platform
    return ⟨table.type, ← labelsOf table.rules attributes⟩
  else fails .wrongKind

/-- The resource of what was recorded. Without attributes there is nothing to describe it. -/
def ofRecorded (attributes : Option (Fields Value)) : Except Failure Resource :=
  match attributes with
  | some attributes => ofAttributes attributes
  | none => fails .missingPart

/-- The labels as attributes of a span, under names that carry the type. -/
def spanAttributes (resource : Resource) : Fields Value :=
  .ofList <| resource.labels.entries.map fun entry =>
    ("g.co/r/" ++ resource.type ++ "/" ++ entry.1, entry.2)

end Resource

/-- A resource in the form that is attached to a time series: all labels are text. -/
structure MonitoredResource where
  type : String
  labels : List (String × String)
deriving DecidableEq, Repr

def Resource.monitored (resource : Resource) : Except Failure MonitoredResource :=
  return ⟨resource.type, ← textLabels resource.labels⟩

end CloudTelemetry
