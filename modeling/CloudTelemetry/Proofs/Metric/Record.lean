import CloudTelemetry.Proofs.Export.Course
import CloudTelemetry.Proofs.Outcomes

/-!
# Records

What holds of every record that a metric becomes (`belongs_of_recordOf`): its descriptor tells its
identity and its type, and it has at least one series. So it does of the records of a batch, which
are those of its metrics (`renders_of_mem_candidates`).
-/

namespace CloudTelemetry

def metricsOf (batch : List ResourceMetrics) : List Metric :=
  batch.flatMap fun metrics => metrics.scopes.flatMap ScopeMetrics.metrics

namespace MetricTarget

variable {target : MetricTarget} {record : MetricRecord}

/-- The type under which an identity is registered. -/
def typeOf (target : MetricTarget) (id : Identity) : String :=
  Metric.typeUnder target.typePrefix id.name

structure Belongs (target : MetricTarget) (record : MetricRecord) : Prop where
  identity : record.descriptor.identity = record.identity
  type : record.descriptor.type = target.typeOf record.identity
  series : record.series ≠ []

/-- What a metric that is not refused becomes: nothing where it has no points, and otherwise a
record whose descriptor its first point tells, with one series for each point. -/
theorem recordOf_cases {scope : Option Scope} {resource : Resource} {metric : Metric}
    {outcome : Option MetricRecord} (h : target.recordOf scope resource metric = .ok outcome) :
    ∃ kind, metric.data.kind metric.name = .ok kind ∧
      (metric.data.points = [] ∧ outcome = none ∨
        ∃ first rest valueType monitored series, metric.data.points = first :: rest ∧
          metric.data.valueType first = .ok valueType ∧ resource.monitored = .ok monitored ∧
          List.Forall₂ (fun point sent => target.series scope monitored
            (metric.descriptor target.typePrefix kind valueType first) point = .ok sent)
            metric.data.points series ∧
          outcome = some ⟨metric.identity kind,
            metric.descriptor target.typePrefix kind valueType first, series⟩) := by
  obtain ⟨kind, hk, h⟩ := bind_eq_ok h
  refine ⟨kind, hk, ?_⟩
  split at h
  · rename_i points
    exact .inl ⟨points, (Except.ok.inj h).symm⟩
  · rename_i first rest points
    obtain ⟨valueType, hv, h⟩ := bind_eq_ok h
    obtain ⟨monitored, hm, h⟩ := bind_eq_ok h
    obtain ⟨series, hs, h⟩ := bind_eq_ok h
    exact .inr ⟨first, rest, valueType, monitored, series, points, hv, hm,
      points ▸ mapM_eq_ok_iff.1 hs, (Except.ok.inj h).symm⟩

theorem belongs_of_recordOf {scope : Option Scope} {resource : Resource} {metric : Metric}
    (h : target.recordOf scope resource metric = .ok (some record)) : target.Belongs record := by
  obtain ⟨kind, -, ⟨-, none⟩ | ⟨first, rest, valueType, _, series, points, -, -, each, made⟩⟩ :=
    recordOf_cases h
  · cases none
  · cases made
    refine ⟨rfl, rfl, fun (none : series = []) => ?_⟩
    rw [none, points] at each
    cases each

/-- The record is what the metric becomes, in some scope and on some resource. -/
def Renders (target : MetricTarget) (metric : Metric) (record : MetricRecord) : Prop :=
  ∃ scope resource, target.recordOf scope resource metric = .ok (some record)

theorem Renders.belongs {metric : Metric} (h : target.Renders metric record) :
    target.Belongs record := by
  obtain ⟨scope, resource, h⟩ := h
  exact belongs_of_recordOf h

theorem renders_of_mem_candidates {batch : List ResourceMetrics} {c : Candidate}
    (h : c ∈ target.candidates batch) (hr : c.record? = some record) :
    ∃ metric ∈ metricsOf batch, target.Renders metric record := by
  obtain ⟨metrics, hb, h⟩ := List.mem_flatMap.1 h
  unfold resourceCandidates at h
  split at h
  · rename_i resource _
    obtain ⟨scope, hs, h⟩ := List.mem_flatMap.1 h
    obtain ⟨metric, hm, rfl⟩ := List.mem_map.1 h
    refine ⟨metric, List.mem_flatMap.2 ⟨metrics, hb, List.mem_flatMap.2 ⟨scope, hs, hm⟩⟩,
      scope.scope, resource, ?_⟩
    unfold Candidate.record? at hr
    split at hr
    · rename_i name found heq
      obtain ⟨-, heq⟩ := Candidate.metric.inj heq
      rw [heq, hr]
    · cases hr
  · rw [List.mem_singleton.1 h] at hr
    cases hr

theorem belongs_of_mem_candidates {batch : List ResourceMetrics} {c : Candidate}
    (h : c ∈ target.candidates batch) (hr : c.record? = some record) : target.Belongs record := by
  obtain ⟨metric, -, renders⟩ := renders_of_mem_candidates h hr
  exact renders.belongs

end MetricTarget

end CloudTelemetry
