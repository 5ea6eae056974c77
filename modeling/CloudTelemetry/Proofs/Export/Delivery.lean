import CloudTelemetry.Proofs.Export.Alone
import CloudTelemetry.Proofs.Export.Runs

/-!
# What an export delivers

`exportBatch_delivers`: all descriptors are sent before any series, and the series of the records
that are left are written once each and in their order, in runs that are full but for the last,
whatever the service answers. The labels by which an export finds the record of a series
(`indexedSeries`) are no part of what is sent.
-/

namespace CloudTelemetry.MetricExporter
open Procedure Stage

variable {e : MetricExporter} {batch : List ResourceMetrics}

theorem map_snd_indexedSeries (records : List MetricRecord) :
    (indexedSeries records).map Prod.snd = records.flatMap MetricRecord.series := by
  unfold indexedSeries
  rw [List.map_flatMap]
  have unlabelled : ∀ q : MetricRecord × Nat,
      (q.1.series.map fun series => (q.2, series)).map Prod.snd = q.1.series := by
    intro q
    rw [List.map_map]
    exact List.map_id _
  simp only [unlabelled]
  rw [← List.flatMap_map Prod.fst MetricRecord.series, List.zipIdx_map_fst]

def written (runs : List (List (Nat × TimeSeries))) : List (List TimeSeries) :=
  runs.map fun run => run.map Prod.snd

theorem flatten_written (runs : List (List (Nat × TimeSeries))) :
    (written runs).flatten = runs.flatten.map Prod.snd :=
  List.map_flatten.symm

theorem written_seriesRuns (records : List MetricRecord) :
    (written (seriesRuns records)).flatten = records.flatMap MetricRecord.series ∧
      (written (seriesRuns records)).length = (seriesCount records + 199) / 200 ∧
      (∀ w ∈ written (seriesRuns records), 1 ≤ w.length ∧ w.length ≤ 200) ∧
      ∀ w ∈ (written (seriesRuns records)).dropLast, w.length = 200 := by
  refine ⟨?_, ?_, ?_, ?_⟩
  · rw [flatten_written, flatten_runsOf, map_snd_indexedSeries]
  · unfold written
    rw [List.length_map, length_runsOf (by decide), seriesCount, ← map_snd_indexedSeries,
      List.length_map]
    rfl
  · intro w hw
    obtain ⟨run, hr, rfl⟩ := List.mem_map.1 hw
    rw [List.length_map]
    exact length_of_mem_runsOf (by decide) hr
  · intro w hw
    unfold written at hw
    rw [← List.map_dropLast] at hw
    obtain ⟨run, hr, rfl⟩ := List.mem_map.1 hw
    rw [List.length_map]
    exact length_of_mem_dropLast_runsOf (by decide) hr

theorem Exported.made {t : Trace} {fates : List Fate} {outcomes : List (Except Failure Unit)}
    {result : ExportResult} (h : Exported e batch t fates outcomes result) :
    t.calls.map Prod.fst = (fates.filterMap Fate.sent?).map Call.createDescriptor ++
      (written (seriesRuns (gathered fates).records)).map Call.writeSeries := by
  obtain ⟨length_eq, sent, sent_eq, calls_eq⟩ := h.calls
  have all : ((seriesRuns (gathered fates).records).map writeOf).length ≤ outcomes.length := by
    simp [length_eq]
  rw [calls_eq, List.map_append, sent_eq, List.map_fst_zip all, written, List.map_map]
  rfl

/-- An export that is not refused, where nothing fails but single records and calls. Whatever the
strategy, the registered identities and the answers of the service: first the descriptors are sent;
then the series of exactly the records that are kept are written, nothing lost, repeated or added
and in the order of the batch, in the least number of writes of at most 200 series. -/
theorem exportBatch_delivers (own : ∀ c ∈ e.target.candidates batch, c.FailsAlone)
    (service : Service) (strategy : Strategy) (registered : List Identity) (inFlight : Int) :
    ∃ result final, ∃ writes : List (List TimeSeries),
      (e.exportBatch (some batch)).run (Stage.handle (served service))
        (opened strategy registered inFlight : Stage (List ResourceMetrics)) =
          some (result, final) ∧
      let fates := fatesOf strategy service [] registered (e.target.candidates batch)
      let series := (fates.filterMap Fate.record?).flatMap MetricRecord.series
      final.made = (fates.filterMap Fate.sent?).map Call.createDescriptor ++
        writes.map Call.writeSeries ∧
      writes.flatten = series ∧
      writes.length = (series.length + 199) / 200 ∧
      (∀ w ∈ writes, 1 ≤ w.length ∧ w.length ≤ 200) ∧
      ∀ w ∈ writes.dropLast, w.length = 200 := by
  obtain ⟨result, final, t, outcomes, run, exported, -, made_eq, -⟩ :=
    run_exportBatch own service strategy registered inFlight
  obtain ⟨joined, count, bounds, full⟩ := written_seriesRuns (gathered
    (fatesOf strategy service [] registered (e.target.candidates batch))).records
  exact ⟨result, final, _, run, made_eq.trans exported.made, joined, count, bounds, full⟩

/-! ### A batch -/

namespace Sample

def exporter : MetricExporter := ⟨⟨"shop", defaultTypePrefix⟩, ⟨.null, true⟩⟩

def gauge (name : String) (values : List Int) : Metric :=
  ⟨name, none, some "1", .gauge (values.map fun n => ⟨none, none, some 0, .number (.int n)⟩)⟩

def metrics : List ResourceMetrics :=
  [⟨some .empty, [⟨none, [gauge "orders" [3, 4], gauge "returns" [], ⟨"users", none, none,
    .other "Summary"⟩, gauge "carts" [5]]⟩]⟩]

def service : Service := fun _ c =>
  match c with
  | .createDescriptor d => if d.displayName = "carts" then fails .badValue else .ok ()
  | _ => .ok ()

theorem failsAlone : ∀ c ∈ exporter.target.candidates metrics, c.FailsAlone := by
  decide

end Sample

/-- A refused descriptor and a metric without a form cost nobody else anything. -/
theorem exportBatch_delivers_sample :
    (∀ c ∈ Sample.exporter.target.candidates Sample.metrics, c.FailsAlone) ∧
    ∃ result final, ∃ writes : List (List TimeSeries),
      (Sample.exporter.exportBatch (some Sample.metrics)).run
        (Stage.handle (served Sample.service))
        (opened .sendOnce [] 0 : Stage (List ResourceMetrics)) = some (result, final) ∧
      final.made.length = 2 + writes.length ∧ writes.length = 1 ∧ writes.flatten.length = 2 := by
  refine ⟨Sample.failsAlone, ?_⟩
  obtain ⟨result, final, writes, run, made_eq, joined, count, -, -⟩ :=
    exportBatch_delivers Sample.failsAlone Sample.service .sendOnce [] 0
  refine ⟨result, final, writes, run, ?_, count, ?_⟩
  · rw [made_eq, List.length_append, List.length_map, List.length_map]
    rfl
  · rw [joined]
    rfl

end CloudTelemetry.MetricExporter
