import CloudTelemetry.Proofs.Export.Delivery
import CloudTelemetry.Proofs.Export.Unlogged
import CloudTelemetry.Proofs.Metric.Record
import CloudTelemetry.Proofs.Metric.Translation

/-!
# Metrics without points

What an export makes of metrics that have no points (`withoutEmpty`). They cost no call and change
nothing in the cache, but one whose aggregation is not supported is refused before its points are
looked at, and counts as a failure. This is seen where nothing else is left of the batch
(`IsVain`): the export then fails, and would succeed without them (`neutral_iff`). The two exports
are compared by their runs but for the log (`Stage.comes`).
-/

namespace CloudTelemetry

/-! ### Candidates that are left out -/

def Candidate.IsNothing : Candidate → Prop
  | .metric _ (.ok none) => True
  | _ => False

theorem Candidate.isNothing_metric {name : String}
    {outcome : Except Failure (Option MetricRecord)} :
    (Candidate.metric name outcome).IsNothing ↔ outcome = .ok none := by
  rcases outcome with cause | _ | record <;> simp [IsNothing]

/-- The second list has the candidates of the first but for some that come to nothing, and some that
are refused, which are counted. -/
inductive Omits : List Candidate → List Candidate → Nat → Prop
  | nil : Omits [] [] 0
  | keep {cs ds n} (c : Candidate) (next : Omits cs ds n) : Omits (c :: cs) (c :: ds) n
  | nothing {cs ds n} (name : String) (next : Omits cs ds n) :
      Omits (.metric name (.ok none) :: cs) ds n
  | refused {cs ds n} (name : String) (reason : Unsendable) (next : Omits cs ds n) :
      Omits (.metric name (.error (.unsendable reason)) :: cs) ds (n + 1)

namespace Omits

variable {cs ds as bs : List Candidate} {n m : Nat}

theorem refl : ∀ cs, Omits cs cs 0
  | [] => .nil
  | c :: cs => .keep c (refl cs)

theorem append (first : Omits as bs m) (h : Omits cs ds n) :
    Omits (as ++ cs) (bs ++ ds) (n + m) := by
  induction first with
  | nil => exact h
  | keep c next ih => exact .keep c ih
  | nothing name next ih => exact .nothing name ih
  | refused name reason next ih => exact .refused name reason ih

theorem eq_zero_iff (h : Omits cs [] n) : n = 0 ↔ ∀ c ∈ cs, c.IsNothing := by
  generalize none : [] = ds at h
  induction h with
  | nil => exact iff_of_true rfl nofun
  | keep => cases none
  | nothing name next ih => rw [ih none, List.forall_mem_cons]; exact (and_iff_right trivial).symm
  | refused name reason next =>
    refine iff_of_false nofun fun all => ?_
    exact (List.forall_mem_cons.1 all).1

end Omits

def Gathered.dropping (n : Nat) (gathered : Gathered) : Gathered :=
  { gathered with dropped := gathered.dropped + n }

namespace MetricExporter
open Procedure Stage

variable {Batch : Type} {cs ds : List Candidate} {n : Nat}

theorem comesBy_gather (service : Service) (h : Omits cs ds n) :
    ComesBy Batch service (Except.map (Gathered.dropping n)) (gather cs) (gather ds) := by
  induction h with
  | nil => exact fun s => rfl
  | @keep cs ds n c next ih =>
    refine (ComesBy.refl (judge c)).bind fun verdict => ?_
    cases verdict with
    | nothing => exact ih
    | fatal cause => exact fun s => rfl
    | accepted record =>
      refine ih.map fun out => ?_
      cases out <;> rfl
    | dropped =>
      refine ih.map fun out => ?_
      cases out with
      | error cause => rfl
      | ok gathered => simp only [Except.map, Gathered.dropping, Nat.add_right_comm]
  | nothing name next ih => exact ih
  | @refused cs ds n name reason next ih =>
    intro s
    have judged : comes service (judge (.metric name (.error (.unsendable reason)))) s =
        some (.dropped, s.unlogged) := rfl
    rw [gather, comes_bind, judged, Option.bind_some]
    dsimp only
    rw [comes_map, comes_unlogged, ih, Option.map_map]
    congr 1
    funext ⟨out, v⟩
    cases out <;> rfl

/-- How many records of some candidates are written, and how many have failed. -/
def tally (e : MetricExporter) (cs : List Candidate) : Steps (Except Failure (Nat × Nat)) := do
  match ← gather cs with
  | .error cause => return .error cause
  | .ok gathered =>
    let counts ← e.write gathered.records
    return .ok (counts.1, gathered.dropped + counts.2)

theorem comesBy_tally (e : MetricExporter) (service : Service) (h : Omits cs ds n) :
    ComesBy Batch service (Except.map fun counts => (counts.1, counts.2 + n))
      (e.tally cs) (e.tally ds) := by
  refine (comesBy_gather service h).bind fun out => ?_
  cases out with
  | error cause => exact fun s => rfl
  | ok gathered =>
    refine (ComesBy.refl (e.write gathered.records)).map fun counts => ?_
    simp only [id, Except.map, Gathered.dropping, Nat.add_right_comm]

theorem comesBy_send (e : MetricExporter) (service : Service) (batch : List ResourceMetrics) :
    ComesBy Batch service (Except.map fun counts => .ofCounts counts.1 counts.2)
      (e.send batch) (e.tally (e.target.candidates batch)) := by
  refine (ComesBy.refl (gather (e.target.candidates batch))).bind fun out => ?_
  cases out with
  | error cause => exact fun s => rfl
  | ok gathered => exact (ComesBy.refl (e.write gathered.records)).map fun counts => rfl

theorem isNothing_of_course {t : Trace} {fates : List Fate} (h : Course cs t fates)
    (unkept : ∀ fate ∈ fates, fate.record? = none) (undropped : ∀ fate ∈ fates, ¬ fate.isDropped) :
    ∀ c ∈ cs, c.IsNothing := by
  induction h with
  | nil => exact nofun
  | cons first next ih =>
    obtain ⟨unkept, unkept'⟩ := List.forall_mem_cons.1 unkept
    obtain ⟨undropped, undropped'⟩ := List.forall_mem_cons.1 undropped
    refine List.forall_mem_cons.2 ⟨?_, ih unkept' undropped'⟩
    cases first with
    | nothing => trivial
    | untranslated | refused => exact absurd rfl undropped
    | skipped | registered => cases unkept

theorem isNothing_of_tally {e : MetricExporter} {service : Service} {s u : Stage Batch}
    (h : comes service (e.tally cs) s = some (.ok (0, 0), u)) : ∀ c ∈ cs, c.IsNothing := by
  obtain ⟨⟨out, v⟩, run, same⟩ := Option.map_eq_some_iff.1 h
  obtain ⟨rfl, -⟩ := Prod.mk.inj same
  obtain ⟨t, goes, -⟩ := goes_of_run run
  obtain ⟨first, _, _, rfl, h₁, h₂⟩ := goes_bind.1 goes
  rcases goes_gather h₁ with ⟨fates, course, rfl⟩ | ⟨_, _, _, _, cause, -, -, -, rfl⟩
  · obtain ⟨second, counts, _, rfl, h₃, h₄⟩ := goes_bind.1 h₂
    obtain ⟨-, none⟩ := goes_pure.1 h₄
    obtain ⟨_, outcomes, -, -, rfl⟩ := goes_write h₃
    obtain ⟨written, failed⟩ := Prod.mk.inj (Except.ok.inj none)
    have unkept : (gathered fates).records = [] := List.eq_nil_of_length_eq_zero (by omega)
    have undropped : (gathered fates).dropped = 0 := by omega
    exact isNothing_of_course course (List.filterMap_eq_nil_iff.1 unkept)
      (List.countP_eq_zero.1 undropped)
  · obtain ⟨-, h⟩ := goes_pure.1 h₂
    cases h

/-! ### An export -/

def resultOf : Except Failure (Nat × Nat) → ExportResult
  | .ok counts => .ofCounts counts.1 counts.2
  | .error _ => .failure

def begun (s : Stage Batch) : Stage Batch :=
  { s with lifecycle := s.lifecycle.beginExport.2, writes := 0 }

def ended (s : Stage Batch) : Stage Batch :=
  unlogged { s with lifecycle := s.lifecycle.endExport }

theorem comes_exportBatch (e : MetricExporter) (service : Service) (batch : List ResourceMetrics)
    {s : Stage Batch} (available : s.lifecycle.isShutdown = false) :
    comes service (e.exportBatch (some batch)) s =
      (comes service (e.tally (e.target.candidates batch)) (begun s)).map
        (Prod.map resultOf ended) := by
  have begins : comes service (Steps.act .beginExport) s = some (true, (begun s).unlogged) := by
    simp [comes, Steps.act, request, Procedure.run, Stage.handle, Lifecycle.beginExport, available,
      begun]
  unfold exportBatch Steps.exporting
  rw [comes_bind, begins, Option.bind_some]
  dsimp only
  rw [if_pos rfl, comes_bind, comes_unlogged, comesBy_send, Option.bind_map]
  cases h : comes service (e.tally (e.target.candidates batch)) (begun s) with
  | none => rfl
  | some out =>
    obtain ⟨counts | cause, u⟩ := out
    · rfl
    · rfl

end MetricExporter

/-! ### Batches -/

def MetricData.isEmpty : MetricData → Bool
  | .other _ => false
  | data => data.points.isEmpty

def ScopeMetrics.withoutEmpty (metrics : ScopeMetrics) : ScopeMetrics :=
  { metrics with metrics := metrics.metrics.filter fun metric => !metric.data.isEmpty }

def ResourceMetrics.withoutEmpty (metrics : ResourceMetrics) : ResourceMetrics :=
  { metrics with scopes := metrics.scopes.map ScopeMetrics.withoutEmpty }

/-- A batch of nothing but metrics without points, which has one that is refused. -/
structure IsVain (batch : List ResourceMetrics) : Prop where
  mapped : ∀ metrics ∈ batch, ∃ resource, Resource.ofRecorded metrics.attributes = .ok resource
  empty : ∀ metric ∈ metricsOf batch, metric.data.isEmpty = true
  unsupported : ∃ metric ∈ metricsOf batch, ¬ metric.data.IsSupported

namespace MetricTarget

variable (target : MetricTarget) (scope : Option Scope) (resource : Resource) {metric : Metric}
  {batch : List ResourceMetrics}

theorem ends_recordOf_of_isEmpty (empty : metric.data.isEmpty = true) :
    Ends (fun cause => ∃ reason, cause = .unsendable reason) metric.data.IsSupported (· = none)
      (target.recordOf scope resource metric) := by
  have points : metric.data.points = [] := by
    cases data : metric.data with
    | other kind => rfl
    | gauge | sum | histogram =>
      rw [data] at empty
      exact List.isEmpty_iff.1 empty
  unfold recordOf
  rw [points]
  exact (metric.data.ends_kind metric.name).bind_pure fun _ _ => rfl

theorem isEmpty_of_recordOf (h : target.recordOf scope resource metric = .ok none) :
    metric.data.isEmpty = true := by
  obtain ⟨kind, hk, ⟨points, -⟩ | ⟨_, _, _, _, _, -, -, -, -, some⟩⟩ := recordOf_cases h
  · cases data : metric.data with
    | other => rw [data] at hk; cases hk
    | gauge | sum | histogram =>
      rw [data] at points
      exact List.isEmpty_iff.2 points
  · cases some

variable {target} {c : Candidate}

/-- The candidates of a batch are its resources that cannot be mapped, and the metrics of the
others. -/
theorem mem_candidates : c ∈ target.candidates batch ↔ ∃ metrics ∈ batch,
    (∃ cause, Resource.ofRecorded metrics.attributes = .error cause ∧ c = .unmapped cause) ∨
      ∃ resource, Resource.ofRecorded metrics.attributes = .ok resource ∧
        ∃ scope ∈ metrics.scopes, ∃ metric ∈ scope.metrics,
          c = .metric metric.name (target.recordOf scope.scope resource metric) := by
  unfold candidates
  rw [List.mem_flatMap]
  refine exists_congr fun metrics => and_congr_right fun _ => ?_
  unfold resourceCandidates
  cases Resource.ofRecorded metrics.attributes with
  | error cause => simp
  | ok resource => simp [scopeCandidates, eq_comm]

theorem exists_omits_flatMap {α : Type} {f g : α → List Candidate} {as : List α}
    (h : ∀ a ∈ as, ∃ n, Omits (f a) (g a) n) : ∃ n, Omits (as.flatMap f) (as.flatMap g) n := by
  induction as with
  | nil => exact ⟨0, .nil⟩
  | cons a as ih =>
    obtain ⟨here, later⟩ := List.forall_mem_cons.1 h
    obtain ⟨m, first⟩ := here
    obtain ⟨n, rest⟩ := ih later
    exact ⟨n + m, first.append rest⟩

theorem exists_omits_scope (target : MetricTarget) (resource : Resource) (metrics : ScopeMetrics) :
    ∃ n, Omits (target.scopeCandidates resource metrics)
      (target.scopeCandidates resource metrics.withoutEmpty) n := by
  obtain ⟨scope, metrics⟩ := metrics
  unfold scopeCandidates ScopeMetrics.withoutEmpty
  induction metrics with
  | nil => exact ⟨0, .nil⟩
  | cons metric rest ih =>
    obtain ⟨n, ih⟩ := ih
    rw [List.map_cons]
    cases empty : metric.data.isEmpty with
    | false =>
      rw [List.filter_cons_of_pos (by simp [empty])]
      exact ⟨n, .keep _ ih⟩
    | true =>
      rw [List.filter_cons_of_neg (by simp [empty])]
      have ends := target.ends_recordOf_of_isEmpty scope resource empty
      generalize target.recordOf scope resource metric = outcome at ends
      cases ends with
      | holds _ none => exact ⟨n, none ▸ .nothing _ ih⟩
      | fails _ refused =>
        obtain ⟨reason, rfl⟩ := refused
        exact ⟨n + 1, .refused _ reason ih⟩

/-- To leave out metrics without points is to leave out candidates that make no call. -/
theorem exists_omits (target : MetricTarget) (batch : List ResourceMetrics) :
    ∃ n, Omits (target.candidates batch)
      (target.candidates (batch.map ResourceMetrics.withoutEmpty)) n := by
  unfold candidates
  rw [List.flatMap_map]
  refine exists_omits_flatMap fun metrics _ => ?_
  unfold resourceCandidates ResourceMetrics.withoutEmpty
  dsimp only
  cases Resource.ofRecorded metrics.attributes with
  | error cause => exact ⟨0, .refl _⟩
  | ok resource =>
    dsimp only
    rw [List.flatMap_map]
    exact exists_omits_flatMap fun scope _ => target.exists_omits_scope resource scope

theorem mem_metricsOf : metric ∈ metricsOf batch ↔
    ∃ metrics ∈ batch, ∃ scope ∈ metrics.scopes, metric ∈ scope.metrics := by
  simp only [metricsOf, List.mem_flatMap]

theorem not_isNothing (h : c ∈ target.candidates (batch.map ResourceMetrics.withoutEmpty)) :
    ¬ c.IsNothing := by
  obtain ⟨metrics, hb, ⟨cause, -, rfl⟩ | ⟨resource, -, scope, hs, metric, hm, rfl⟩⟩ :=
    mem_candidates.1 h
  · exact id
  · obtain ⟨_, -, rfl⟩ := List.mem_map.1 hb
    obtain ⟨_, -, rfl⟩ := List.mem_map.1 hs
    have some := (List.mem_filter.1 hm).2
    rw [Candidate.isNothing_metric]
    intro nothing
    rw [target.isEmpty_of_recordOf _ _ nothing] at some
    cases some

theorem candidates_withoutEmpty_eq_nil_iff (target : MetricTarget) (batch : List ResourceMetrics) :
    target.candidates (batch.map ResourceMetrics.withoutEmpty) = [] ↔
      (∀ metrics ∈ batch, ∃ resource, Resource.ofRecorded metrics.attributes = .ok resource) ∧
        ∀ metric ∈ metricsOf batch, metric.data.isEmpty = true := by
  rw [List.eq_nil_iff_forall_not_mem]
  constructor
  · intro none
    have mapped : ∀ metrics ∈ batch, ∃ resource,
        Resource.ofRecorded metrics.attributes = .ok resource := by
      intro metrics hb
      cases found : Resource.ofRecorded metrics.attributes with
      | ok resource => exact ⟨resource, rfl⟩
      | error cause =>
        exact absurd (mem_candidates.2 ⟨_, List.mem_map_of_mem hb, .inl ⟨cause, found, rfl⟩⟩)
          (none _)
    refine ⟨mapped, fun metric hm => ?_⟩
    obtain ⟨metrics, hb, scope, hs, hm⟩ := mem_metricsOf.1 hm
    obtain ⟨resource, found⟩ := mapped metrics hb
    by_contra some
    have left : metric ∈ scope.withoutEmpty.metrics := List.mem_filter.2 ⟨hm, by simp [some]⟩
    exact none _ (mem_candidates.2 ⟨_, List.mem_map_of_mem hb, .inr ⟨resource, found, _,
      List.mem_map_of_mem hs, metric, left, rfl⟩⟩)
  · rintro ⟨mapped, empty⟩ c hc
    obtain ⟨_, left, hc⟩ := mem_candidates.1 hc
    obtain ⟨metrics, hb, rfl⟩ := List.mem_map.1 left
    rcases hc with ⟨cause, failed, -⟩ | ⟨resource, -, _, left, metric, hm, -⟩
    · obtain ⟨resource, found⟩ := mapped metrics hb
      cases found.symm.trans failed
    · obtain ⟨scope, hs, rfl⟩ := List.mem_map.1 left
      obtain ⟨hm, some⟩ := List.mem_filter.1 hm
      rw [empty metric (mem_metricsOf.2 ⟨metrics, hb, scope, hs, hm⟩)] at some
      cases some

theorem isVain_iff {n : Nat} (h : Omits (target.candidates batch)
      (target.candidates (batch.map ResourceMetrics.withoutEmpty)) n) :
    IsVain batch ↔
      target.candidates (batch.map ResourceMetrics.withoutEmpty) = [] ∧ n ≠ 0 := by
  constructor
  · rintro ⟨mapped, empty, metric, hm, unsupported⟩
    have none := (target.candidates_withoutEmpty_eq_nil_iff batch).2 ⟨mapped, empty⟩
    refine ⟨none, fun zero => unsupported ?_⟩
    rw [none] at h
    have ready := empty metric hm
    obtain ⟨metrics, hb, scope, hs, hm⟩ := mem_metricsOf.1 hm
    obtain ⟨resource, found⟩ := mapped metrics hb
    have nothing := h.eq_zero_iff.1 zero _
      (mem_candidates.2 ⟨metrics, hb, .inr ⟨resource, found, scope, hs, metric, hm, rfl⟩⟩)
    exact (target.ends_recordOf_of_isEmpty _ _ ready).exists_ok_iff.1
      ⟨_, Candidate.isNothing_metric.1 nothing⟩
  · rintro ⟨none, some⟩
    obtain ⟨mapped, empty⟩ := (target.candidates_withoutEmpty_eq_nil_iff batch).1 none
    refine ⟨mapped, empty, ?_⟩
    rw [none] at h
    by_contra supported
    refine some (h.eq_zero_iff.2 fun c hc => ?_)
    obtain ⟨metrics, hb, ⟨cause, failed, -⟩ | ⟨resource, -, scope, hs, metric, hm, rfl⟩⟩ :=
      mem_candidates.1 hc
    · obtain ⟨resource, found⟩ := mapped metrics hb
      cases found.symm.trans failed
    · have known := mem_metricsOf.2 ⟨metrics, hb, scope, hs, hm⟩
      have ends := target.ends_recordOf_of_isEmpty scope.scope resource (empty metric known)
      have sent : metric.data.IsSupported := by
        by_contra unsupported
        exact supported ⟨metric, known, unsupported⟩
      obtain ⟨outcome, ok⟩ := ends.exists_ok_iff.2 sent
      rw [Candidate.isNothing_metric, ok, ends.kind_of_ok ok]

end MetricTarget

namespace MetricExporter
open Procedure Stage

theorem tally_eq_zero_iff {e : MetricExporter} {service : Service} {batch : List ResourceMetrics}
    {s u : Stage (List ResourceMetrics)} {tallied : Except Failure (Nat × Nat)}
    (h : comes service (e.tally (e.target.candidates (batch.map ResourceMetrics.withoutEmpty))) s =
      some (tallied, u)) :
    tallied = .ok (0, 0) ↔ e.target.candidates (batch.map ResourceMetrics.withoutEmpty) = [] := by
  constructor
  · rintro rfl
    exact List.eq_nil_iff_forall_not_mem.2 fun c hc =>
      MetricTarget.not_isNothing hc (isNothing_of_tally h c hc)
  · intro none
    rw [none] at h
    cases h
    rfl

theorem resultOf_eq_iff (tallied : Except Failure (Nat × Nat)) (n : Nat) :
    resultOf (tallied.map fun counts => (counts.1, counts.2 + n)) = resultOf tallied ↔
      ¬ (tallied = .ok (0, 0) ∧ n ≠ 0) := by
  rcases tallied with cause | ⟨written, failed⟩
  · exact iff_of_true rfl nofun
  · show ExportResult.ofCounts written (failed + n) = .ofCounts written failed ↔ _
    unfold ExportResult.ofCounts
    rcases written with _ | written <;> rcases failed with _ | failed <;> rcases n with _ | n <;>
      simp

/-- Metrics without points cost nothing and change nothing in an export, whatever the batch, the
strategy, the registered identities and the answers of the service: without them it makes the same
calls and leaves all but the log in the same state. Its result is the same, too, but for batches
that are vain: these fail, and would succeed without. -/
theorem neutral_iff (e : MetricExporter) (batch : List ResourceMetrics) (service : Service)
    (strategy : Strategy) (registered : List Identity) (inFlight : Int) :
    ∃ result final other rest,
      (e.exportBatch (some batch)).run (Stage.handle (served service))
        (opened strategy registered inFlight : Stage (List ResourceMetrics)) =
          some (result, final) ∧
      (e.exportBatch (some (batch.map ResourceMetrics.withoutEmpty))).run
        (Stage.handle (served service))
        (opened strategy registered inFlight : Stage (List ResourceMetrics)) =
          some (other, rest) ∧
      rest = { final with log := rest.log } ∧
      (result = other ↔ ¬ IsVain batch) ∧
      (IsVain batch → result = .failure ∧ other = .success) := by
  obtain ⟨result, final, -, run, -⟩ := run_eq_some e batch service strategy registered inFlight
  obtain ⟨other, rest, -, run', -⟩ := run_eq_some e (batch.map ResourceMetrics.withoutEmpty)
    service strategy registered inFlight
  refine ⟨result, final, other, rest, run, run', ?_⟩
  obtain ⟨n, omits⟩ := e.target.exists_omits batch
  have available : (opened strategy registered inFlight :
    Stage (List ResourceMetrics)).lifecycle.isShutdown = false := rfl
  have comes_eq := comes_exportBatch e service batch available
  have comes_eq' := comes_exportBatch e service (batch.map ResourceMetrics.withoutEmpty) available
  rw [comesBy_tally e service omits, Option.map_map, comes, run, Option.map_some] at comes_eq
  rw [comes, run', Option.map_some] at comes_eq'
  obtain ⟨⟨tallied, u⟩, ht, same'⟩ := Option.map_eq_some_iff.1 comes_eq'.symm
  rw [ht] at comes_eq
  obtain ⟨rfl, ended'⟩ := Prod.mk.inj same'
  obtain ⟨rfl, ended⟩ := Prod.mk.inj (Option.some.inj comes_eq)
  have vain : IsVain batch ↔ tallied = .ok (0, 0) ∧ n ≠ 0 := by
    rw [MetricTarget.isVain_iff omits, tally_eq_zero_iff ht]
  refine ⟨eq_of_unlogged (ended.trans ended'), ?_, fun h => ?_⟩
  · rw [vain]
    exact resultOf_eq_iff tallied n
  · obtain ⟨rfl, some⟩ := vain.1 h
    have failed : ExportResult.ofCounts 0 (0 + n) = .failure := by
      simp [ExportResult.ofCounts, some]
    exact ⟨failed, rfl⟩

namespace Sample

/-- Nothing was collected of a sum that begins anew with each collection. -/
def drained : List ResourceMetrics :=
  [⟨some .empty, [⟨none, [⟨"visits", none, some "1", .sum true .delta []⟩]⟩]⟩]

end Sample

/-- There is nothing to send, and yet the export fails. -/
theorem not_neutral : ∃ final rest,
    (Sample.exporter.exportBatch (some Sample.drained)).run (Stage.handle (served Sample.service))
      (opened .sendOnce [] 0 : Stage (List ResourceMetrics)) = some (.failure, final) ∧
    (Sample.exporter.exportBatch (some (Sample.drained.map ResourceMetrics.withoutEmpty))).run
      (Stage.handle (served Sample.service))
      (opened .sendOnce [] 0 : Stage (List ResourceMetrics)) = some (.success, rest) :=
  ⟨_, _, rfl, rfl⟩

end MetricExporter

end CloudTelemetry
