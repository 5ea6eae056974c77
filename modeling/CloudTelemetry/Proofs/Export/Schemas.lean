import CloudTelemetry.Proofs.Export.Precedence

/-!
# What an identity tells of a descriptor

A registration is remembered by the identity of a metric: its name, its kind and its unit. The
descriptor tells more, namely the `Schema` of the metric: its description, and what its first point
makes of it. Two metrics of one identity have one descriptor exactly if they have one schema
(`descriptor_eq_iff`). An exporter that sends each descriptor once therefore writes a record under
the descriptor of another, unless their schemas are the same (`same_identity`).
-/

namespace CloudTelemetry

/-- What a descriptor tells besides the identity. -/
structure Schema where
  description : String
  valueType : ValueType
  labels : List String
deriving DecidableEq, Repr

namespace Metric

def schema? (metric : Metric) : Option Schema :=
  match metric.data.points with
  | [] => none
  | first :: _ => (metric.data.valueType first).toOption.map fun valueType =>
    ⟨metric.description.getD "", valueType, attributeNames first⟩

end Metric

/-- Descriptors that may differ in their schemas only. -/
structure Descriptor.AgreesWith (d other : Descriptor) : Prop where
  type : d.type = other.type
  displayName : d.displayName = other.displayName
  unit : d.unit = other.unit
  kind : d.kind = other.kind

theorem MetricKind.name_injective : Function.Injective MetricKind.name := by
  intro a b
  cases a <;> cases b <;> decide

namespace MetricTarget

variable {target : MetricTarget} {record other : MetricRecord}

/-- The descriptor of a metric is told by its name, its kind, its unit and its schema. -/
theorem Renders.form {m : Metric} (h : target.Renders m record) :
    ∃ kind schema, m.schema? = some schema ∧ record.identity = m.identity kind ∧
      record.descriptor = ⟨Metric.typeUnder target.typePrefix m.name, m.name, schema.description,
        m.unitText, kind, schema.valueType, schema.labels⟩ := by
  obtain ⟨scope, resource, h⟩ := h
  obtain ⟨kind, -, ⟨-, none⟩ | ⟨first, rest, valueType, _, _, points, hv, -, -, made⟩⟩ :=
    recordOf_cases h
  · cases none
  · cases made
    refine ⟨kind, ⟨m.description.getD "", valueType, Metric.attributeNames first⟩, ?_, rfl, rfl⟩
    unfold Metric.schema?
    rw [points]
    dsimp only
    rw [hv]
    rfl

theorem descriptor_eq_iff {m n : Metric} (hm : target.Renders m record)
    (hn : target.Renders n other) (same : record.identity = other.identity) :
    record.descriptor.AgreesWith other.descriptor ∧
      (record.descriptor = other.descriptor ↔ m.schema? = n.schema?) := by
  obtain ⟨kind, ⟨description, valueType, labels⟩, hs, hi, hd⟩ := hm.form
  obtain ⟨kind', ⟨description', valueType', labels'⟩, hs', hi', hd'⟩ := hn.form
  rw [hi, hi'] at same
  have name : m.name = n.name := congrArg Identity.name same
  have kinds : kind = kind' := MetricKind.name_injective (congrArg Identity.kind same)
  have unit : m.unitText = n.unitText := congrArg Identity.unit same
  rw [hd, hd', hs, hs', name, kinds, unit]
  exact ⟨⟨rfl, rfl, rfl, rfl⟩, by simp⟩

end MetricTarget

namespace MetricExporter
open Procedure Traffic

variable {e : MetricExporter} {past : Trace} {request : Request (List ResourceMetrics)}
  {requests : List (Request (List ResourceMetrics))} {s : Traffic (Except Failure Response)}
  {serves : Nat → Trace → Call → Except Failure Unit → Prop}

theorem renders_of_sent {rest : Steps (Except Failure Response)} {d : Descriptor}
    {outcome : Except Failure Unit} (h : (e.exporter.answer request).Leads past rest)
    (sent : (Call.createDescriptor d, outcome) ∈ past.calls) :
    ∃ batch record, request = .exportBatch (some batch) ∧ record.descriptor = d ∧
      ∃ metric ∈ metricsOf batch, e.target.Renders metric record := by
  obtain ⟨batch, later, fates, result, asked, begun⟩ := begun_of_leads h sent rfl
  obtain ⟨first, course, -, through⟩ := through_of_begun begun
  have made : (Call.createDescriptor d, outcome) ∈ (past ++ later : Trace).calls := by
    rw [Trace.calls_append]
    exact List.mem_append_left _ sent
  obtain ⟨c, hc, record, hr, own⟩ := record_of_mem_calls course (through d outcome made)
  exact ⟨batch, record, asked, own,
    MetricTarget.renders_of_mem_candidates (List.takeWhile_subset _ hc) hr⟩

/-- Two metrics of one exporter that are registered under one identity: their descriptors agree in
type, name, unit and kind, and they are one descriptor exactly if the schemas are one. So it is when
an exporter that sends each descriptor once passes over a registration. Among any number of exports,
from no registered identities and at a service that answers as it likes, whenever a record is
written a descriptor of its identity has been accepted, that of a metric with which an export was
asked; and this is the descriptor of the record itself exactly if the schemas of the two metrics are
one. -/
theorem same_identity (e : MetricExporter) :
    (∀ m n record other, e.target.Renders m record → e.target.Renders n other →
      record.identity = other.identity →
      record.descriptor.AgreesWith other.descriptor ∧
        (record.descriptor = other.descriptor ↔ m.schema? = n.schema?)) ∧
    ∀ (serves : Nat → Trace → Call → Except Failure Unit → Prop)
      (requests : List (Request (List ResourceMetrics))) (s : Traffic (Except Failure Response)),
      Reaches serves (e.exporter.traffic (.new .sendOnce []) requests) s →
      ∀ (i : Nat) series next past,
        s.callers[i]? = some ⟨.ask (.call (.writeSeries series)) next, past⟩ →
        ∃ batch records, ∃ run ∈ seriesRuns records,
          requests[i]? = some (.exportBatch (some batch)) ∧
          records.Sublist (e.translated (some batch)) ∧ series = run.map Prod.snd ∧
          ∀ record ∈ records, ∃ m ∈ metricsOf batch, e.target.Renders m record ∧
            ∃ asked, .exportBatch (some asked) ∈ requests ∧
              ∃ n ∈ metricsOf asked, ∃ accepted, e.target.Renders n accepted ∧
                (∃ c ∈ s.callers, (Call.createDescriptor accepted.descriptor, .ok ()) ∈
                  c.past.calls) ∧
                accepted.descriptor.AgreesWith record.descriptor ∧
                (accepted.descriptor = record.descriptor ↔ n.schema? = m.schema?) := by
  refine ⟨fun m n record other => MetricTarget.descriptor_eq_iff, ?_⟩
  intro serves requests s h i series next past caller
  obtain ⟨request, asked, leads⟩ := Exporter.leads_of_reaches h caller
  obtain ⟨batch, reply, later, fates, outcomes, result, rfl, exported⟩ := exported_of_write leads
  obtain ⟨first, course, sub⟩ := exported.course_of_write
  obtain ⟨run, here, series_eq⟩ := exported.run_of_write
  have records := records_sublist_of_course course
  have all := goneThrough_eq_self (failsAlone_of_course course)
  rw [← all] at records
  refine ⟨batch, (gathered fates).records, run, List.mem_of_getElem? here, asked, records,
    series_eq, fun record hr => ?_⟩
  obtain ⟨candidate, hc, own⟩ := record_of_course course hr
  obtain ⟨m, hm, renders⟩ := MetricTarget.renders_of_mem_candidates hc own
  obtain ⟨-, old | ⟨c, hcaller, d, same, accepted⟩⟩ := seenTo_of_course h caller course sub hr
  · cases old
  · obtain ⟨j, hj⟩ := List.getElem?_of_mem hcaller
    obtain ⟨request, asked', leads'⟩ := Exporter.leads_of_reaches h hj
    obtain ⟨other, sent, rfl, rfl, n, hn, renders'⟩ := renders_of_sent leads' accepted
    have identity : sent.identity = record.identity := by
      rw [← same]
      exact renders'.belongs.identity.symm
    obtain ⟨agrees, iff⟩ := MetricTarget.descriptor_eq_iff renders' renders identity
    exact ⟨m, hm, renders, other, List.mem_of_getElem? asked', n, hn, sent, renders',
      ⟨c, hcaller, accepted⟩, agrees, iff⟩

namespace Sample

def halfOrder : Metric :=
  ⟨"orders", none, some "1",
    .gauge [⟨none, none, some 0, .number (.float (Binary64.ofRatio false 1 2))⟩]⟩

def halfOrders : List ResourceMetrics := [⟨some .empty, [⟨none, [halfOrder]⟩]⟩]

end Sample

/-- The second export passes over the registration, and writes under the descriptor that the first
has sent for its metric. -/
theorem same_identity_sample :
    ∃ s series next past, Reaches (fun _ _ _ outcome => outcome = .ok ())
        (Sample.exporter.exporter.traffic (.new .sendOnce [])
          [.exportBatch (some Sample.orders), .exportBatch (some Sample.halfOrders)]) s ∧
      s.callers[1]? = some ⟨.ask (.call (.writeSeries series)) next, past⟩ ∧
      ∃ records, records.Sublist (Sample.exporter.translated (some Sample.halfOrders)) ∧
        records ≠ [] ∧ ∀ record ∈ records, ∃ c ∈ s.callers, ∃ d,
          (Call.createDescriptor d, .ok ()) ∈ c.past.calls ∧ d.AgreesWith record.descriptor := by
  have begun : Reaches (fun _ _ _ outcome => outcome = .ok ())
      (Sample.exporter.exporter.traffic (.new .sendOnce [])
        [.exportBatch (some Sample.orders), .exportBatch (some Sample.halfOrders)]) _ :=
    (Reaches.refl.step (@Step.answered _ _ _ _ _ 0 _ .beginExport _ false _ rfl rfl)).step
      (@Step.answered _ _ _ _ _ 1 _ .beginExport _ false _ rfl rfl)
  have claimed := begun.step (@Step.answered _ _ _ _ _ 0 _ (.claim _) _ false true rfl rfl)
  have asleep := claimed.step (@Step.asleep _ _ _ _ _ 1 _ (.claim _) _ false rfl rfl)
  have settled := (asleep.step (@Step.served _ _ _ _ 0 _ (.createDescriptor _) _ _ rfl rfl)).step
    (@Step.answered _ _ _ _ _ 0 _ (.settle _ true) _ false _ rfl rfl)
  have skipped := settled.step (@Step.answered _ _ _ _ _ 1 _ (.claim _) _ false false rfl rfl)
  obtain ⟨-, writes⟩ := same_identity Sample.exporter
  obtain ⟨batch, records, run, here, asked, part, -, told⟩ := writes _ _ _ skipped 1 _ _ _ rfl
  cases asked
  refine ⟨_, _, _, _, skipped, rfl, records, part, ?_, fun record hr => ?_⟩
  · rintro rfl
    cases here
  · have told := told record hr
    obtain ⟨m, -, -, other, -, n, -, accepted, -, ⟨c, hc, sent⟩, agrees, -⟩ := told
    exact ⟨c, hc, _, sent, agrees⟩

/-- Two exports in a row, whose metrics have one identity. The second writes values that are no
integers, and the only descriptor that was ever sent declares integers. -/
theorem descriptor_left_unsent :
    ∃ resource first second m u,
      Resource.ofRecorded (some .empty) = .ok resource ∧
      Sample.exporter.target.recordOf none resource (Sample.gauge "orders" [3]) =
        .ok (some first) ∧
      Sample.exporter.target.recordOf none resource Sample.halfOrder = .ok (some second) ∧
      first.identity = second.identity ∧ first.descriptor.valueType = .int64 ∧
      second.descriptor.valueType = .double ∧
      (Sample.exporter.exportBatch (some Sample.orders)).run
        (Stage.handle (Stage.served fun _ _ => .ok ()))
        (Stage.opened .sendOnce [] 0 : Stage (List ResourceMetrics)) = some (.success, m) ∧
      (Sample.exporter.exportBatch (some Sample.halfOrders)).run
        (Stage.handle (Stage.served fun _ _ => .ok ())) m = some (.success, u) ∧
      u.made = [.createDescriptor first.descriptor, .writeSeries first.series,
        .writeSeries second.series] :=
  ⟨_, _, _, _, _, rfl, rfl, rfl, rfl, rfl, rfl, rfl, rfl, rfl⟩

end MetricExporter

end CloudTelemetry
