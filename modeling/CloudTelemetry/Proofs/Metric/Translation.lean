import CloudTelemetry.Proofs.Metric.Points

/-!
# Which metrics become records

A metric whose points have measurements of one type and times is sent exactly if its aggregation is
supported, each of its points fits and all labels hold whole characters; its record then has one
series for each point, in the order of the points (`recordOf_wellFormed`). A metric without broken
labels fails by itself alone.
-/

namespace CloudTelemetry

namespace MetricData

/-- What only grows is counted from the start of the process. -/
def IsSupported : MetricData → Prop
  | .gauge _ => True
  | .sum monotonic temporality _ => monotonic = true → temporality = .cumulative
  | .histogram temporality _ => temporality = .cumulative
  | .other _ => False

def sentKind : MetricData → MetricKind
  | .sum true _ _ | .histogram _ _ => .cumulative
  | _ => .gauge

def types : MetricData → List ValueType
  | .histogram _ _ => [.distribution]
  | _ => [.int64, .double]

/-- All measurements are of one type, all times are there, and all attributes have written forms. -/
structure WellFormed (data : MetricData) : Prop where
  typed : ∃ valueType ∈ data.types, ∀ point ∈ data.points, point.IsOf valueType
  timed : ∀ point ∈ data.points, point.Timed
  writable : ∀ point ∈ data.points, AllWritable (point.attributes.getD .empty)

theorem ends_kind (data : MetricData) (name : String) :
    Ends (fun cause => ∃ reason, cause = .unsendable reason) data.IsSupported
      (· = data.sentKind) (data.kind name) := by
  cases data with
  | gauge points => exact .holds trivial rfl
  | sum monotonic temporality points =>
    cases monotonic with
    | false => exact .holds nofun rfl
    | true =>
      cases temporality with
      | cumulative => exact .holds (fun _ => rfl) rfl
      | unspecified | delta => exact .fails (fun h => nomatch h rfl) ⟨_, rfl⟩
  | histogram temporality points =>
    cases temporality with
    | cumulative => exact .holds rfl rfl
    | unspecified | delta => exact .fails nofun ⟨_, rfl⟩
  | other kind => exact .fails id ⟨_, rfl⟩

theorem valueType_eq {data : MetricData} {valueType : ValueType} (possible : valueType ∈ data.types)
    {first : DataPoint} (h : first.IsOf valueType) : data.valueType first = .ok valueType := by
  cases data with
  | histogram temporality points =>
    obtain rfl := List.mem_singleton.1 possible
    rfl
  | gauge | sum | other =>
    rcases List.mem_pair.1 possible with rfl | rfl
    · obtain ⟨_, measured, n, rfl, -⟩ := h
      simp only [valueType, measured]
    · obtain ⟨_, measured, x, rfl⟩ := h
      simp only [valueType, measured]

end MetricData

/-- The record of a metric: its descriptor is told by the first point, and its series are those of
the points. -/
structure MetricRecord.Tells (target : MetricTarget) (scope : Option Scope) (resource : Resource)
    (metric : Metric) (record : MetricRecord) : Prop where
  identity : record.identity = metric.identity metric.data.sentKind
  descriptor : ∃ first ∈ metric.data.points.head?, ∃ valueType ∈ metric.data.types,
    record.descriptor =
      metric.descriptor target.typePrefix metric.data.sentKind valueType first
  series : ∃ monitored : MonitoredResource, monitored.Tells resource ∧
    List.Forall₂ (TimeSeries.Tells target scope monitored record.descriptor)
      metric.data.points record.series

/-- The labels that are sent of a metric can be sent, and so can those of its resource. -/
structure Metric.Whole (scope : Option Scope) (resource : Resource) (metric : Metric) : Prop where
  resource : AllWhole resource.labels.entries
  points : ∀ point ∈ metric.data.points, point.Whole scope

namespace MetricTarget

variable (target : MetricTarget) {scope : Option Scope} {resource : Resource} {metric : Metric}

theorem sends_recordOf (named : Named scope) (texts : AllText resource.labels.entries)
    (well : metric.data.WellFormed) :
    Sends (metric.data.IsSupported ∧ ∀ point ∈ metric.data.points, point.Sendable)
      (metric.data.points ≠ [] → metric.Whole scope resource)
      (fun outcome => (metric.data.points = [] → outcome = none) ∧ (metric.data.points ≠ [] →
        ∃ record, outcome = some record ∧ record.Tells target scope resource metric))
      (target.recordOf scope resource metric) := by
  obtain ⟨valueType, possible, typed⟩ := well.typed
  have timed := well.timed
  have writable := well.writable
  have whole : (metric.data.points ≠ [] → metric.Whole scope resource) ↔ (metric.data.points ≠ [] →
      AllWhole resource.labels.entries ∧ ∀ point ∈ metric.data.points, point.Whole scope) :=
    imp_congr_right fun _ => ⟨fun h => ⟨h.resource, h.points⟩, fun h => ⟨h.1, h.2⟩⟩
  rw [whole]
  unfold recordOf
  refine Sends.imp ((Sends.of_own (metric.data.ends_kind metric.name)).bind fun kind hk => ?_) Iff.rfl
    (true_and _).to_iff fun _ => id
  subst hk
  cases points : metric.data.points with
  | nil =>
    exact Ends.holds ⟨nofun, fun some => (some rfl).elim⟩
      ⟨fun _ => rfl, fun some => (some rfl).elim⟩
  | cons first rest =>
    rw [points] at typed timed writable
    show Sends _ _ _ (metric.data.valueType first >>= _)
    rw [MetricData.valueType_eq possible (typed first List.mem_cons_self)]
    let descriptor := metric.descriptor target.typePrefix metric.data.sentKind valueType first
    have series (monitored : MonitoredResource) : ∀ point ∈ first :: rest,
        Sends point.Sendable (point.Whole scope)
          (TimeSeries.Tells target scope monitored descriptor point)
          (target.series scope monitored descriptor point) := fun point hp =>
      sends_series target named monitored (typed point hp) (timed point hp) (writable point hp)
    refine Sends.imp ((Sends.of_half (ends_monitored texts)).bind fun monitored told =>
      (Sends.mapM (series monitored)).bind_pure fun sent each => ⟨nofun, fun _ => ?_⟩)
        (true_and _).to_iff (by simp) fun _ => id
    refine ⟨_, rfl, rfl, ⟨first, ?_, valueType, possible, rfl⟩, monitored, told, ?_⟩
    · rw [points, List.head?_cons, Option.mem_some_iff]
    · rw [points]
      exact each

/-- What becomes of a well-formed metric. It becomes nothing exactly where its aggregation is
supported and it has no points. Where the labels are whole, it is refused as unsendable exactly
where it is not supported or one of its points does not fit, and else it becomes a record that tells
all points. A label with half of a character is the only other thing that can go wrong. -/
theorem recordOf_wellFormed (named : Named scope) (texts : AllText resource.labels.entries)
    (well : metric.data.WellFormed) :
    (target.recordOf scope resource metric = .ok none ↔
      metric.data.IsSupported ∧ metric.data.points = []) ∧
    (∀ cause, target.recordOf scope resource metric = .error cause →
      (∃ reason, cause = .unsendable reason) ∧
        (¬ metric.data.IsSupported ∨ ∃ point ∈ metric.data.points, ¬ point.Sendable) ∨
      cause = .defect .halfCharacter ∧ metric.data.points ≠ [] ∧
        ¬ metric.Whole scope resource) ∧
    (metric.Whole scope resource →
      ((∃ reason, target.recordOf scope resource metric = .error (.unsendable reason)) ↔
        ¬ metric.data.IsSupported ∨ ∃ point ∈ metric.data.points, ¬ point.Sendable)) ∧
    (metric.data.IsSupported → (∀ point ∈ metric.data.points, point.Sendable) →
      metric.data.points ≠ [] →
      (metric.Whole scope resource → ∃ record,
        target.recordOf scope resource metric = .ok (some record) ∧
        record.Tells target scope resource metric) ∧
      (¬ metric.Whole scope resource →
        target.recordOf scope resource metric = .error (.defect .halfCharacter))) := by
  have sends := sends_recordOf target named texts well
  generalize target.recordOf scope resource metric = outcome at sends ⊢
  have refused : (¬ metric.data.IsSupported ∨ ∃ point ∈ metric.data.points, ¬ point.Sendable) ↔
      ¬ (metric.data.IsSupported ∧ ∀ point ∈ metric.data.points, point.Sendable) := by
    simp only [not_and_or, not_forall, exists_prop]
  rw [refused]
  cases sends with
  | @fails cause no failed =>
    have some : ¬ (metric.data.IsSupported ∧ metric.data.points = []) := by
      rintro ⟨yes, none⟩
      exact no ⟨⟨yes, by rw [none]; exact nofun⟩, fun some => (some none).elim⟩
    refine ⟨iff_of_false nofun some, ?_, ?_, ?_⟩
    · rintro _ ⟨⟩
      exact failed.imp_right fun ⟨half, broken⟩ => ⟨half, Classical.not_imp.1 broken⟩
    · intro whole
      obtain ⟨⟨reason, rfl⟩, unsendable⟩ | ⟨-, broken⟩ := failed
      · exact iff_of_true ⟨reason, rfl⟩ unsendable
      · exact (broken fun _ => whole).elim
    · intro yes each _
      obtain ⟨-, unsendable⟩ | ⟨rfl, broken⟩ := failed
      · exact (unsendable ⟨yes, each⟩).elim
      · exact ⟨fun whole => (broken fun _ => whole).elim, fun _ => rfl⟩
  | @holds outcome yes told =>
    refine ⟨?_, nofun, fun _ => iff_of_false nofun (not_not.2 yes.1), fun _ _ some => ⟨fun _ => ?_,
      fun broken => (broken (yes.2 some)).elim⟩⟩
    · refine ⟨fun h => ⟨yes.1.1, ?_⟩, fun h => congrArg _ (told.1 h.2)⟩
      by_contra some
      obtain ⟨record, rfl, -⟩ := told.2 some
      cases h
    · obtain ⟨record, rfl, tells⟩ := told.2 some
      exact ⟨record, rfl, tells⟩

namespace Sample

def counted (attributes : Option (Fields Value)) (n : Int) : DataPoint :=
  ⟨attributes, some 0, some 1500000000, .number (.int n)⟩

def requests : Metric where
  name := "requests"
  description := none
  unit := some "1"
  data := .sum true .cumulative [
    counted (some (.ofList [("path", .text "/")])) 3,
    counted none (2 ^ 63 - 1)]

def server : Scope := ⟨.text "server", .null⟩

def task : Resource := ⟨"generic_task", .ofList [("job", .text "svc")]⟩

theorem named_server : Named (some server) := by
  rintro s ⟨⟩
  exact ⟨⟨Glyphs.ofString "server", (Value.ofGlyphs_ofString _).symm⟩, nofun⟩

theorem allText_task : AllText task.labels.entries := by
  intro entry he
  rw [List.mem_singleton.1 he]
  exact ⟨Glyphs.ofString "svc", (Value.ofGlyphs_ofString _).symm⟩

theorem wellFormed_requests : requests.data.WellFormed where
  typed := by
    have integer {n : Int} (attributes : Option (Fields Value)) (h : IsInt64 n) :
        (counted attributes n).IsOf .int64 := ⟨_, rfl, n, rfl, lt_leastUnwritten h⟩
    refine ⟨.int64, by decide, ?_⟩
    exact List.forall_mem_cons.2 ⟨integer _ (by decide), List.forall_mem_singleton.2
      (integer _ (by decide))⟩
  timed := by
    have timed (attributes : Option (Fields Value)) (n : Int) : (counted attributes n).Timed :=
      ⟨⟨_, rfl, by decide⟩, ⟨_, rfl, by decide⟩⟩
    exact List.forall_mem_cons.2 ⟨timed _ _, List.forall_mem_singleton.2 (timed _ _)⟩
  writable := List.forall_mem_cons.2 ⟨List.forall_mem_singleton.2 rfl,
    List.forall_mem_singleton.2 nofun⟩

theorem whole_requests : requests.Whole (some server) task where
  resource := List.forall_mem_singleton.2 ⟨_, rfl⟩
  points := by
    have path : sentLabels (some (.ofList [("path", .text "/")])) (some server) =
        [("path", .ofGlyphs "/"), (scopeNameLabel, .text "server"),
          (scopeVersionLabel, .text "")] := rfl
    have none : sentLabels none (some server) =
        [(scopeNameLabel, .text "server"), (scopeVersionLabel, .text "")] := rfl
    have scope : AllWhole [(scopeNameLabel, .text "server"), (scopeVersionLabel, .text "")] :=
      List.forall_mem_cons.2 ⟨⟨_, rfl⟩, List.forall_mem_singleton.2 ⟨_, rfl⟩⟩
    refine List.forall_mem_cons.2 ⟨⟨?_, nofun⟩, List.forall_mem_singleton.2 ⟨none ▸ scope, nofun⟩⟩
    exact path ▸ List.forall_mem_cons.2 ⟨⟨_, Value.ofGlyphs_ofString "/"⟩, scope⟩

end Sample

theorem recordOf_wellFormed_requests : ∃ record,
    recordOf ⟨"project", defaultTypePrefix⟩ (some Sample.server) Sample.task Sample.requests =
        .ok (some record) ∧
      record.Tells ⟨"project", defaultTypePrefix⟩ (some Sample.server) Sample.task
        Sample.requests := by
  have fits (attributes : Option (Fields Value)) {n : Int} (h : IsInt64 n) :
      (Sample.counted attributes n).Sendable := fitsInt64_int.2 h
  have each : ∀ point ∈ Sample.requests.data.points, point.Sendable :=
    List.forall_mem_cons.2 ⟨fits _ (by decide), List.forall_mem_singleton.2 (fits _ (by decide))⟩
  exact ((recordOf_wellFormed _ Sample.named_server Sample.allText_task
    Sample.wellFormed_requests).2.2.2 (fun _ => rfl) each nofun).1 Sample.whole_requests

namespace Sample

def brokenPath : BrokenText := ⟨⟨[.half 0xDCFF]⟩, rfl⟩

def uploads : Metric where
  name := "uploads"
  description := none
  unit := none
  data := .gauge [counted (some (.ofList [("path", .broken brokenPath)])) 1]

end Sample

/-- There is nothing amiss with the metric itself, and yet it is not a failure of one record. -/
theorem recordOf_uploads : Sample.uploads.data.WellFormed ∧ Sample.uploads.data.IsSupported ∧
    (∀ point ∈ Sample.uploads.data.points, point.Sendable) ∧
    recordOf ⟨"project", defaultTypePrefix⟩ none Sample.task Sample.uploads =
      .error (.defect .halfCharacter) := by
  refine ⟨⟨⟨.int64, by decide, ?_⟩, ?_, ?_⟩, trivial, ?_, rfl⟩
  · exact List.forall_mem_singleton.2 ⟨_, rfl, 1, rfl, lt_leastUnwritten (by decide)⟩
  · exact List.forall_mem_singleton.2 ⟨⟨_, rfl, by decide⟩, ⟨_, rfl, by decide⟩⟩
  · exact List.forall_mem_singleton.2 (List.forall_mem_singleton.2 rfl)
  · exact List.forall_mem_singleton.2 (fitsInt64_int.2 (by decide))

end MetricTarget

end CloudTelemetry
