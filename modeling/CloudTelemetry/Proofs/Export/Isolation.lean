import CloudTelemetry.Proofs.Export.Delivery
import CloudTelemetry.Proofs.Metric.Numbers
import CloudTelemetry.Proofs.Metric.Record

/-!
# One metric among others

What a metric without a form costs the other metrics of its batch. A `Gap` is a batch with a place
for the metric. If the failure concerns the metric alone, the export calls the service as if the
metric were not there; any other failure ends the whole batch, and nothing is written
(`isolated_iff`).
-/

namespace CloudTelemetry

/-- A batch with a place for metrics among those of one scope. -/
structure Gap where
  before : List ResourceMetrics
  attributes : Option (Fields Value)
  scopesBefore : List ScopeMetrics
  scope : Option Scope
  metricsBefore : List Metric
  metricsAfter : List Metric
  scopesAfter : List ScopeMetrics
  after : List ResourceMetrics

namespace Gap

def fill (gap : Gap) (metrics : List Metric) : List ResourceMetrics :=
  gap.before ++ ⟨gap.attributes, gap.scopesBefore ++
    ⟨gap.scope, gap.metricsBefore ++ metrics ++ gap.metricsAfter⟩ :: gap.scopesAfter⟩ :: gap.after

variable {gap : Gap} {resource : Resource}

theorem candidates_fill (target : MetricTarget)
    (mapped : Resource.ofRecorded gap.attributes = .ok resource) :
    ∃ before after, ∀ metrics, target.candidates (gap.fill metrics) = before ++
      metrics.map (fun m => .metric m.name (target.recordOf gap.scope resource m)) ++ after := by
  refine ⟨target.candidates gap.before ++ (gap.scopesBefore.flatMap
    (target.scopeCandidates resource) ++ gap.metricsBefore.map fun m => .metric m.name
      (target.recordOf gap.scope resource m)),
    (gap.metricsAfter.map fun m => .metric m.name (target.recordOf gap.scope resource m)) ++
      gap.scopesAfter.flatMap (target.scopeCandidates resource) ++ target.candidates gap.after,
    fun metrics => ?_⟩
  have here : ∀ scopes, target.resourceCandidates ⟨gap.attributes, scopes⟩ =
      scopes.flatMap (target.scopeCandidates resource) := by
    intro scopes
    unfold MetricTarget.resourceCandidates
    rw [mapped]
  simp [fill, MetricTarget.candidates, here, MetricTarget.scopeCandidates]

end Gap

namespace Stage

variable {strategy : Strategy} {service : Service} {registered : List Identity} {past : List Call}

/-- A candidate without a form changes nothing for the others. -/
theorem filterMap_fatesOf_insert {β : Type} {f : Fate → Option β} (hf : f .untranslated = none)
    (name : String) (cause : Failure) (before after : List Candidate) :
    (fatesOf strategy service past registered
        (before ++ .metric name (.error cause) :: after)).filterMap f =
      (fatesOf strategy service past registered (before ++ after)).filterMap f := by
  induction before generalizing past registered with
  | nil => simp [fatesOf, fateOf, Fate.sent?, Fate.registered?, hf]
  | cons c before ih => simp only [List.cons_append, fatesOf, List.filterMap_cons, ih]

theorem filterMap_fatesOf_eq_nil {β : Type} {f : Fate → Option β} (hn : f .nothing = none)
    (hu : f .untranslated = none) {cs : List Candidate} (none : ∀ c ∈ cs, c.record? = none) :
    (fatesOf strategy service past registered cs).filterMap f = [] := by
  induction cs generalizing past registered with
  | nil => rfl
  | cons c cs ih =>
    obtain ⟨first, later⟩ := List.forall_mem_cons.1 none
    have quiet : f (fateOf strategy service past registered c) = .none := by
      rcases c with ⟨name, cause | _ | record⟩ | cause
      · exact hu
      · exact hn
      · cases first
      · exact hu
    rw [fatesOf, List.filterMap_cons, quiet]
    exact ih later

theorem mem_fatesOf_neverSend (service : Service) (past : List Call)
    (registered : List Identity) {cs : List Candidate} {c : Candidate} {record : MetricRecord}
    (hc : c ∈ cs) (hr : c.record? = some record) :
    record ∈ (fatesOf .neverSend service past registered cs).filterMap Fate.record? := by
  induction cs generalizing past registered with
  | nil => cases hc
  | cons d cs ih =>
    rw [fatesOf, List.mem_filterMap]
    rcases List.mem_cons.1 hc with rfl | hc
    · refine ⟨_, List.mem_cons_self, ?_⟩
      rcases c with ⟨name, cause | _ | own⟩ | cause <;> cases hr
      rfl
    · obtain ⟨fate, hf, heq⟩ := List.mem_filterMap.1 (ih _ _ hc)
      exact ⟨fate, List.mem_cons_of_mem _ hf, heq⟩

end Stage

namespace MetricExporter
open Procedure Stage

variable {e : MetricExporter} {batch : List ResourceMetrics} {gap : Gap} {metric : Metric}
  {resource : Resource} {cause : Failure}

/-- Whatever its surroundings are like, the export makes the calls that it makes without the metric,
and writes all records of other metrics that are left. -/
def Isolates (e : MetricExporter) (gap : Gap) (metric : Metric) : Prop :=
  ∀ (service : Service) (strategy : Strategy) (registered : List Identity) (inFlight : Int),
    ∃ result final other rest, ∃ writes : List (List TimeSeries),
      (e.exportBatch (some (gap.fill [metric]))).run (Stage.handle (served service))
        (opened strategy registered inFlight : Stage (List ResourceMetrics)) =
          some (result, final) ∧
      (e.exportBatch (some (gap.fill []))).run (Stage.handle (served service))
        (opened strategy registered inFlight : Stage (List ResourceMetrics)) =
          some (other, rest) ∧
      final.made = rest.made ∧
      let fates := fatesOf strategy service [] registered (e.target.candidates (gap.fill []))
      final.made = (fates.filterMap Fate.sent?).map Call.createDescriptor ++
        writes.map Call.writeSeries ∧
      writes.flatten = (fates.filterMap Fate.record?).flatMap MetricRecord.series

theorem run_aborts (doom : ∃ c ∈ e.target.candidates batch, ¬ c.FailsAlone) (service : Service)
    (strategy : Strategy) (registered : List Identity) (inFlight : Int) :
    ∃ result final t fates,
      (e.exportBatch (some batch)).run (Stage.handle (served service))
        (opened strategy registered inFlight : Stage (List ResourceMetrics)) =
          some (result, final) ∧
      Aborted e batch t fates result ∧ final.made = t.calls.map Prod.fst := by
  obtain ⟨result, final, t, run, goes, answers⟩ :=
    run_eq_some e batch service strategy registered inFlight
  obtain ⟨made_eq, -, -⟩ := answers_kept answers
  rcases goes_exportBatch goes with ⟨rfl, -⟩ | ⟨fates, outcomes, exported⟩ | ⟨fates, aborted⟩
  · cases (begun_of_answers answers).1
  · obtain ⟨first, course, -⟩ := exported.course
    obtain ⟨c, hc, fatal⟩ := doom
    exact absurd (failsAlone_of_course course c hc) fatal
  · exact ⟨result, final, t, fates, run, aborted, made_eq⟩

theorem run_made (own : ∀ c ∈ e.target.candidates batch, c.FailsAlone) (service : Service)
    (strategy : Strategy) (registered : List Identity) (inFlight : Int) :
    ∃ result final,
      (e.exportBatch (some batch)).run (Stage.handle (served service))
        (opened strategy registered inFlight : Stage (List ResourceMetrics)) =
          some (result, final) ∧
      let fates := fatesOf strategy service [] registered (e.target.candidates batch)
      final.made = (fates.filterMap Fate.sent?).map Call.createDescriptor ++
        (written (seriesRuns (fates.filterMap Fate.record?))).map Call.writeSeries := by
  obtain ⟨result, final, t, outcomes, run, exported, -, made_eq, -⟩ :=
    run_exportBatch own service strategy registered inFlight
  exact ⟨result, final, run, made_eq.trans exported.made⟩

theorem isolates_of_own (mapped : Resource.ofRecorded gap.attributes = .ok resource)
    (others : ∀ c ∈ e.target.candidates (gap.fill []), c.FailsAlone)
    (bad : e.target.recordOf gap.scope resource metric = .error cause)
    (own : cause.concernsRecord = true) : e.Isolates gap metric := by
  intro service strategy registered inFlight
  obtain ⟨before, after, candidates⟩ := gap.candidates_fill e.target mapped
  have filled := candidates [metric]
  have empty := candidates []
  rw [List.map_singleton, bad, List.append_assoc, List.singleton_append] at filled
  rw [List.map_nil, List.append_nil] at empty
  have all : ∀ c ∈ e.target.candidates (gap.fill [metric]), c.FailsAlone := by
    rw [empty] at others
    intro c hc
    rw [filled] at hc
    rcases List.mem_append.1 hc with hc | hc
    · exact others c (List.mem_append_left _ hc)
    · rcases List.mem_cons.1 hc with rfl | hc
      · exact own
      · exact others c (List.mem_append_right _ hc)
  obtain ⟨result, final, run, made⟩ := run_made all service strategy registered inFlight
  obtain ⟨other, rest, run', made'⟩ := run_made others service strategy registered inFlight
  have same : final.made = rest.made := by
    rw [made, made', filled, empty, filterMap_fatesOf_insert rfl, filterMap_fatesOf_insert rfl]
  exact ⟨result, final, other, rest, _, run, run', same, same.trans made',
    (written_seriesRuns _).1⟩

theorem Aborted.made {t : Trace} {fates : List Fate} {result : ExportResult}
    (h : Aborted e batch t fates result) :
    t.calls.map Prod.fst = (fates.filterMap Fate.sent?).map Call.createDescriptor := by
  obtain ⟨before, c, after, first, cause, -, -, rfl, course⟩ := h.parts
  rw [← calls_of_course course]
  show (Trace.calls (first ++ _)).map Prod.fst = _
  rw [Trace.calls_append, List.map_append]
  exact List.append_nil _

theorem doomed (mapped : Resource.ofRecorded gap.attributes = .ok resource)
    (bad : e.target.recordOf gap.scope resource metric = .error cause)
    (fatal : cause.concernsRecord = false) :
    ∃ c ∈ e.target.candidates (gap.fill [metric]), ¬ c.FailsAlone := by
  obtain ⟨before, after, candidates⟩ := gap.candidates_fill e.target mapped
  refine ⟨.metric metric.name (.error cause), ?_, ?_⟩
  · rw [candidates, List.map_singleton, bad]
    simp
  · show ¬ cause.concernsRecord = true
    rw [fatal]
    exact Bool.false_ne_true

theorem isolates_of_alone (mapped : Resource.ofRecorded gap.attributes = .ok resource)
    (others : ∀ c ∈ e.target.candidates (gap.fill []), c.FailsAlone)
    (bad : e.target.recordOf gap.scope resource metric = .error cause)
    (fatal : cause.concernsRecord = false)
    (alone : ∀ c ∈ e.target.candidates (gap.fill []), c.record? = none) :
    e.Isolates gap metric := by
  intro service strategy registered inFlight
  obtain ⟨before, after, candidates⟩ := gap.candidates_fill e.target mapped
  have recordless : ∀ c ∈ e.target.candidates (gap.fill [metric]), c.record? = none := by
    rw [candidates, List.map_nil, List.append_nil] at alone
    rw [candidates, List.map_singleton, bad]
    intro c hc
    simp only [List.mem_append, List.mem_singleton] at hc
    rcases hc with (hc | rfl) | hc
    · exact alone c (List.mem_append_left _ hc)
    · rfl
    · exact alone c (List.mem_append_right _ hc)
  obtain ⟨result, final, t, fates, run, aborted, made⟩ :=
    run_aborts (doomed mapped bad fatal) service strategy registered inFlight
  obtain ⟨other, rest, run', made'⟩ := run_made others service strategy registered inFlight
  have unsent : final.made = [] := by
    obtain ⟨_, c, _, _, _, split, -, -, course⟩ := aborted.parts
    rw [made, aborted.made, List.map_eq_nil_iff, List.eq_nil_iff_forall_not_mem]
    intro d hd
    obtain ⟨c, hc, record, hr, -⟩ := record_of_sent course hd
    rw [recordless c (by rw [split]; exact List.mem_append_left _ hc)] at hr
    cases hr
  have unsent' : rest.made = [] := by
    rw [made', filterMap_fatesOf_eq_nil rfl rfl alone, filterMap_fatesOf_eq_nil rfl rfl alone]
    rfl
  refine ⟨result, final, other, rest, [], run, run', unsent.trans unsent'.symm, ?_, ?_⟩
  · rw [unsent, filterMap_fatesOf_eq_nil rfl rfl alone]
    rfl
  · rw [filterMap_fatesOf_eq_nil rfl rfl alone]
    rfl

theorem not_isolates (mapped : Resource.ofRecorded gap.attributes = .ok resource)
    (bad : e.target.recordOf gap.scope resource metric = .error cause)
    (fatal : cause.concernsRecord = false) {c : Candidate} {record : MetricRecord}
    (hc : c ∈ e.target.candidates (gap.fill [])) (hr : c.record? = some record) :
    ¬ e.Isolates gap metric := by
  intro isolates
  -- a service that accepts everything, and is not asked for descriptors
  obtain ⟨result, final, other, rest, writes, run, -, -, made, joined⟩ :=
    isolates (fun _ _ => .ok ()) .neverSend [] 0
  obtain ⟨result', final', t, fates, run', aborted, made'⟩ :=
    run_aborts (doomed mapped bad fatal) (fun _ _ => .ok ()) .neverSend [] 0
  obtain ⟨-, rfl⟩ := Prod.mk.inj (Option.some.inj (run.symm.trans run'))
  have unwritten : writes = [] := by
    rw [made', aborted.made] at made
    refine List.eq_nil_iff_forall_not_mem.2 fun w hw => ?_
    have sent : Call.writeSeries w ∈ (fates.filterMap Fate.sent?).map Call.createDescriptor := by
      rw [made]
      exact List.mem_append_right _ (List.mem_map_of_mem hw)
    obtain ⟨d, -, heq⟩ := List.mem_map.1 sent
    cases heq
  have kept := mem_fatesOf_neverSend (fun _ _ => .ok ()) [] [] hc hr
  have nonempty := (MetricTarget.belongs_of_mem_candidates hc hr).series
  obtain ⟨series, hs⟩ := List.exists_mem_of_ne_nil _ nonempty
  have mem := List.mem_flatMap.2 ⟨record, kept, hs⟩
  rw [← joined, unwritten] at mem
  cases mem

/-- A metric without a form, in any place of a batch that does not end for another reason. The
export makes the calls that it makes without the metric exactly if the failure is one of a single
record, or if there is no other record. A metric of numbers fails so exactly if the labels of its
resource do not break, nor any of its points up to the first that does not fit. -/
theorem isolated_iff (mapped : Resource.ofRecorded gap.attributes = .ok resource)
    (others : ∀ c ∈ e.target.candidates (gap.fill []), c.FailsAlone)
    (bad : e.target.recordOf gap.scope resource metric = .error cause) :
    (e.Isolates gap metric ↔ cause.concernsRecord = true ∨
      ∀ c ∈ e.target.candidates (gap.fill []), c.record? = none) ∧
    (Named gap.scope → metric.IsNumeric →
      (cause.concernsRecord = true ↔ ¬ metric.Breaks gap.scope resource)) := by
  refine ⟨⟨fun isolates => ?_, fun h => ?_⟩, fun named numeric =>
    concernsRecord_iff mapped named numeric bad⟩
  · cases own : cause.concernsRecord with
    | true => exact .inl rfl
    | false =>
      refine .inr fun c hc => ?_
      cases hr : c.record? with
      | none => rfl
      | some record => exact absurd isolates (not_isolates mapped bad own hc hr)
  · cases own : cause.concernsRecord with
    | true => exact isolates_of_own mapped others bad own
    | false =>
      have alone := h.resolve_left (by rw [own]; exact Bool.false_ne_true)
      exact isolates_of_alone mapped others bad own alone

namespace Sample

def place : Gap where
  before := []
  attributes := some .empty
  scopesBefore := []
  scope := none
  metricsBefore := []
  metricsAfter := [gauge "orders" [3]]
  scopesAfter := []
  after := []

def task : Resource where
  type := "generic_task"
  labels := .ofList [("location", .text "global"), ("namespace", .text ""), ("job", .text ""),
    ("task_id", .text "")]

def visits : Metric :=
  ⟨"visits", none, some "1", .sum true .delta [⟨none, none, some 0, .number (.int 2)⟩]⟩

def load : Metric :=
  ⟨"load", none, some "1", .gauge [⟨none, none, some 0, .number (.int 1)⟩,
    ⟨none, none, some 0, .number (.float (.infinite false))⟩]⟩

end Sample

/-- A sum that begins anew with each collection costs the other metric nothing. -/
theorem isolated_iff_sample :
    Sample.exporter.Isolates Sample.place Sample.visits ∧
      ¬ Sample.visits.Breaks none Sample.task := by
  have mapped : Resource.ofRecorded Sample.place.attributes = .ok Sample.task := rfl
  have others : ∀ c ∈ Sample.exporter.target.candidates (Sample.place.fill []), c.FailsAlone := by
    decide
  have bad : Sample.exporter.target.recordOf Sample.place.scope Sample.task Sample.visits =
      .error (.unsendable (.temporality "Sum" "visits" "DELTA")) := rfl
  have numeric : Sample.visits.IsNumeric := by
    intro point hp
    obtain rfl := List.mem_singleton.1 hp
    exact ⟨_, rfl, .inl ⟨_, rfl⟩⟩
  obtain ⟨isolates, breaks⟩ := isolated_iff mapped others bad
  exact ⟨isolates.2 (.inl rfl), (breaks nofun numeric).1 rfl⟩

/-- An infinite value among integers ends the batch: the other metric, which is written where the
first is not there, is not even declared. -/
theorem not_isolated : Sample.load.IsNumeric ∧
    (∃ cause, Sample.exporter.target.recordOf none Sample.task Sample.load = .error cause) ∧
    ¬ Sample.exporter.Isolates Sample.place Sample.load := by
  refine ⟨?_, ⟨_, rfl⟩, ?_⟩
  · intro point hp
    rcases List.mem_cons.1 hp with rfl | hp
    · exact ⟨_, rfl, .inl ⟨1, rfl⟩⟩
    · obtain rfl := List.mem_singleton.1 hp
      exact ⟨_, rfl, .inr ⟨_, rfl⟩⟩
  · intro isolates
    obtain ⟨result, final, other, rest, writes, run, run', same, -⟩ :=
      isolates (fun _ _ => .ok ()) .sendOnce [] 0
    cases run
    cases run'
    cases same

end MetricExporter

end CloudTelemetry
