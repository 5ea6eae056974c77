import CloudTelemetry.Proofs.Export.Delivery
import Mathlib.Data.List.Nodup

/-!
# How an export accounts for its batch

An export counts what was written by the ranks of the records that are left, and what was dropped
while it went through the batch. Here both are brought back to the places of the candidates in the
batch. A `Ledger` holds the writes with their outcomes, each series under the place of its
candidate. A candidate is then delivered, failed or absent, and never two of these; the result is
read off the numbers of the first two (`exportBatch_accounts`).
-/

namespace CloudTelemetry
open MetricExporter

/-- The writes of an export, with their outcomes. -/
abbrev Ledger := List (List (Nat × TimeSeries) × Except Failure Unit)

def Ledger.hit (ledger : Ledger) : List Nat :=
  (ledger.filter fun w => !w.2.isOk).flatMap fun w => w.1.map Prod.fst

def kept (fates : List Fate) : List (Nat × MetricRecord) :=
  fates.zipIdx.filterMap fun q => q.1.record?.map fun record => (q.2, record)

def placed (kept : List (Nat × MetricRecord)) : List (Nat × TimeSeries) :=
  kept.flatMap fun p => p.2.series.map fun series => (p.1, series)

variable {fates : List Fate} {ledger : Ledger} {i j : Nat}

/-- The candidate has series, and all of them were written. -/
def Delivered (fates : List Fate) (ledger : Ledger) (i : Nat) : Prop :=
  ∃ record registered, fates[i]? = some (.kept record registered) ∧ record.series ≠ [] ∧
    ∀ w ∈ ledger, i ∈ w.1.map Prod.fst → w.2 = .ok ()

/-- The candidate has no form, its descriptor was refused, or a write of its series failed. -/
def Failed (fates : List Fate) (ledger : Ledger) (i : Nat) : Prop :=
  fates[i]? = some .untranslated ∨ (∃ record, fates[i]? = some (.refused record)) ∨
    ∃ w ∈ ledger, i ∈ w.1.map Prod.fst ∧ w.2 ≠ .ok ()

/-- There was nothing to send. -/
def Absent (fates : List Fate) (i : Nat) : Prop := fates[i]? = some .nothing

/-! ### Places -/

theorem mem_kept {record : MetricRecord} :
    (i, record) ∈ kept fates ↔ ∃ registered, fates[i]? = some (.kept record registered) := by
  unfold kept
  rw [List.mem_filterMap]
  constructor
  · rintro ⟨⟨fate, k⟩, h, hr⟩
    rw [List.mk_mem_zipIdx_iff_getElem?] at h
    cases fate with
    | kept r registered =>
      cases hr
      exact ⟨registered, h⟩
    | nothing | untranslated | refused => cases hr
  · rintro ⟨registered, h⟩
    exact ⟨(.kept record registered, i), List.mk_mem_zipIdx_iff_getElem?.2 h, rfl⟩

theorem map_snd_kept (fates : List Fate) :
    (kept fates).map Prod.snd = (gathered fates).records := by
  unfold kept gathered
  rw [List.map_filterMap]
  have forget : ∀ q : Fate × Nat,
      Option.map Prod.snd (q.1.record?.map fun record => (q.2, record)) = q.1.record? := by
    intro q
    cases q.1.record? <;> rfl
  simp only [forget]
  show fates.zipIdx.filterMap (Fate.record? ∘ Prod.fst) = _
  rw [← List.filterMap_map, List.zipIdx_map_fst]

theorem pairwise_zipIdx (fates : List Fate) : fates.zipIdx.Pairwise fun a b => a.2 ≠ b.2 := by
  apply List.pairwise_map.1
  show (fates.zipIdx.map Prod.snd).Nodup
  rw [List.zipIdx_map_snd]
  exact List.nodup_range'

theorem nodup_places (fates : List Fate) : ((kept fates).map Prod.fst).Nodup := by
  rw [List.nodup_iff_pairwise_ne, List.pairwise_map]
  unfold kept
  apply (pairwise_zipIdx fates).filterMap
  rintro ⟨a, i⟩ ⟨b, j⟩ hij p hp q hq
  obtain ⟨_, -, rfl⟩ := Option.map_eq_some_iff.1 hp
  obtain ⟨_, -, rfl⟩ := Option.map_eq_some_iff.1 hq
  exact hij

def droppedPlaces (fates : List Fate) : List Nat :=
  (fates.zipIdx.filter fun q => q.1.isDropped).map Prod.snd

theorem mem_droppedPlaces :
    i ∈ droppedPlaces fates ↔ ∃ fate, fates[i]? = some fate ∧ fate.isDropped = true := by
  unfold droppedPlaces
  rw [List.mem_map]
  constructor
  · rintro ⟨⟨fate, k⟩, h, rfl⟩
    rw [List.mem_filter, List.mk_mem_zipIdx_iff_getElem?] at h
    exact ⟨fate, h⟩
  · rintro ⟨fate, h⟩
    exact ⟨(fate, i), List.mem_filter.2 ⟨List.mk_mem_zipIdx_iff_getElem?.2 h.1, h.2⟩, rfl⟩

theorem nodup_droppedPlaces (fates : List Fate) : (droppedPlaces fates).Nodup := by
  unfold droppedPlaces
  rw [List.nodup_iff_pairwise_ne, List.pairwise_map]
  exact (pairwise_zipIdx fates).filter _

theorem length_droppedPlaces (fates : List Fate) :
    (droppedPlaces fates).length = (gathered fates).dropped := by
  unfold droppedPlaces gathered
  rw [List.length_map, ← List.countP_eq_length_filter]
  rw [← Function.comp_def Fate.isDropped Prod.fst, ← List.countP_map, List.zipIdx_map_fst]

/-! ### From ranks to places -/

def placeOf (fates : List Fate) (rank : Nat) : Nat := ((kept fates).map Prod.fst).getD rank 0

def replace (fates : List Fate) (run : List (Nat × TimeSeries)) : List (Nat × TimeSeries) :=
  run.map fun s => (placeOf fates s.1, s.2)

theorem map_placeOf_range (fates : List Fate) :
    (List.range (kept fates).length).map (placeOf fates) = (kept fates).map Prod.fst := by
  apply List.ext_getElem
  · rw [List.length_map, List.length_range, List.length_map]
  · intro j _ h
    rw [List.length_map] at h
    simp [placeOf, h]

theorem placeOf_inj {k : Nat} (hj : j < (kept fates).length) (hk : k < (kept fates).length)
    (h : placeOf fates j = placeOf fates k) : j = k := by
  have nodup := nodup_places fates
  rw [← map_placeOf_range] at nodup
  exact List.inj_on_of_nodup_map nodup (List.mem_range.2 hj) (List.mem_range.2 hk) h

theorem replace_indexedSeries (fates : List Fate) :
    replace fates (indexedSeries (gathered fates).records) = placed (kept fates) := by
  unfold replace indexedSeries
  rw [← map_snd_kept, List.zipIdx_map, List.flatMap_map, List.map_flatMap]
  have step : ∀ q ∈ (kept fates).zipIdx,
      ((q.1.2.series.map fun series => (q.2, series)).map fun s => (placeOf fates s.1, s.2)) =
        q.1.2.series.map fun series => (q.1.1, series) := by
    rintro ⟨p, k⟩ h
    rw [List.mk_mem_zipIdx_iff_getElem?] at h
    rw [List.map_map]
    have hk : placeOf fates k = p.1 := by simp [placeOf, h]
    simp [Function.comp_def, hk]
  refine (List.flatMap_congr step).trans ?_
  unfold placed
  conv => rhs; rw [← List.zipIdx_map_fst 0 (kept fates), List.flatMap_map]

def ledgerOf (fates : List Fate) (outcomes : List (Except Failure Unit)) : Ledger :=
  ((seriesRuns (gathered fates).records).map (replace fates)).zip outcomes

variable {outcomes : List (Except Failure Unit)}

theorem hit_ledgerOf : (ledgerOf fates outcomes).hit =
    (hitBy (seriesRuns (gathered fates).records) outcomes).map (placeOf fates) := by
  unfold ledgerOf Ledger.hit hitBy
  rw [List.zip_map_left, List.filter_map, List.flatMap_map, List.map_flatMap]
  refine List.flatMap_congr fun w _ => ?_
  simp [replace, Function.comp_def]

theorem lt_of_mem_hitBy
    (h : j ∈ hitBy (seriesRuns (gathered fates).records) outcomes) : j < (kept fates).length := by
  obtain ⟨⟨run, outcome⟩, hw, hj⟩ := List.mem_flatMap.1 h
  obtain ⟨⟨_, series⟩, hs, rfl⟩ := List.mem_map.1 hj
  have hr : run ∈ seriesRuns (gathered fates).records :=
    (List.of_mem_zip (List.mem_filter.1 hw).1).1
  have all := List.mem_flatten.2 ⟨run, hr, hs⟩
  rw [flatten_runsOf] at all
  obtain ⟨⟨record, k⟩, hk, hx⟩ := List.mem_flatMap.1 all
  obtain ⟨_, -, hx⟩ := List.mem_map.1 hx
  cases hx
  have bound := List.snd_lt_of_mem_zipIdx hk
  rwa [← map_snd_kept, List.length_map] at bound

/-- The records that an export counts as failed are those left with a series in a failed write. -/
theorem failures_eq : failures (gathered fates).records outcomes =
    ((kept fates).map Prod.fst).countP (ledgerOf fates outcomes).hit.contains := by
  unfold failures
  rw [← map_placeOf_range, List.countP_map, ← map_snd_kept, List.length_map, map_snd_kept]
  refine List.countP_congr fun j hj => ?_
  rw [List.mem_range] at hj
  rw [List.contains_iff_mem, Function.comp_apply, List.contains_iff_mem, hit_ledgerOf]
  constructor
  · exact List.mem_map_of_mem
  · intro h
    obtain ⟨k, hk, heq⟩ := List.mem_map.1 h
    rwa [← placeOf_inj (lt_of_mem_hitBy hk) hj heq]

/-! ### Who is delivered, and who failed -/

theorem mem_hit :
    i ∈ ledger.hit ↔ ∃ w ∈ ledger, i ∈ w.1.map Prod.fst ∧ w.2 ≠ .ok () := by
  unfold Ledger.hit
  rw [List.mem_flatMap]
  have failed : ∀ outcome : Except Failure Unit, outcome.isOk = false ↔ outcome ≠ .ok () := by
    intro outcome
    cases outcome <;> simp
  simp only [List.mem_filter, Bool.not_eq_true', failed]
  constructor
  · rintro ⟨w, ⟨hw, hf⟩, hi⟩
    exact ⟨w, hw, hi, hf⟩
  · rintro ⟨w, hw, hi, hf⟩
    exact ⟨w, ⟨hw, hf⟩, hi⟩

def deliveredPlaces (fates : List Fate) (ledger : Ledger) : List Nat :=
  ((kept fates).map Prod.fst).filter fun i => !ledger.hit.contains i

def failedPlaces (fates : List Fate) (ledger : Ledger) : List Nat :=
  droppedPlaces fates ++ ((kept fates).map Prod.fst).filter ledger.hit.contains

theorem mem_places : i ∈ (kept fates).map Prod.fst ↔
    ∃ record registered, fates[i]? = some (.kept record registered) := by
  constructor
  · intro h
    obtain ⟨⟨_, record⟩, hp, rfl⟩ := List.mem_map.1 h
    exact ⟨record, mem_kept.1 hp⟩
  · rintro ⟨record, h⟩
    exact List.mem_map.2 ⟨(i, record), mem_kept.2 h, rfl⟩

theorem mem_places_of_mem_hit (h : i ∈ (ledgerOf fates outcomes).hit) :
    i ∈ (kept fates).map Prod.fst := by
  rw [hit_ledgerOf] at h
  obtain ⟨k, hk, rfl⟩ := List.mem_map.1 h
  rw [← map_placeOf_range]
  exact List.mem_map_of_mem (List.mem_range.2 (lt_of_mem_hitBy hk))

theorem mem_deliveredPlaces
    (points : ∀ record ∈ (gathered fates).records, record.series ≠ []) :
    i ∈ deliveredPlaces fates ledger ↔ Delivered fates ledger i := by
  unfold deliveredPlaces
  rw [List.mem_filter, mem_places, Bool.not_eq_true', ← Bool.not_eq_true, List.contains_iff_mem,
    mem_hit]
  constructor
  · rintro ⟨⟨record, registered, h⟩, unhit⟩
    have left : record ∈ (gathered fates).records := by
      rw [← map_snd_kept]
      exact List.mem_map.2 ⟨(i, record), mem_kept.2 ⟨registered, h⟩, rfl⟩
    refine ⟨record, registered, h, points record left, fun w hw hi => ?_⟩
    by_contra hf
    exact unhit ⟨w, hw, hi, hf⟩
  · rintro ⟨record, registered, h, -, all⟩
    exact ⟨⟨record, registered, h⟩, fun ⟨w, hw, hi, hf⟩ => hf (all w hw hi)⟩

theorem mem_failedPlaces : i ∈ failedPlaces fates (ledgerOf fates outcomes) ↔
    Failed fates (ledgerOf fates outcomes) i := by
  unfold failedPlaces Failed
  rw [List.mem_append, mem_droppedPlaces, List.mem_filter, List.contains_iff_mem, ← mem_hit]
  constructor
  · rintro (⟨fate, h, dropped⟩ | ⟨-, hit⟩)
    · cases fate with
      | untranslated => exact .inl h
      | refused record => exact .inr (.inl ⟨record, h⟩)
      | nothing | kept => cases dropped
    · exact .inr (.inr hit)
  · rintro (h | ⟨record, h⟩ | hit)
    · exact .inl ⟨_, h, rfl⟩
    · exact .inl ⟨_, h, rfl⟩
    · exact .inr ⟨mem_places_of_mem_hit hit, hit⟩

theorem nodup_deliveredPlaces (fates : List Fate) (ledger : Ledger) :
    (deliveredPlaces fates ledger).Nodup :=
  (nodup_places fates).filter _

theorem nodup_failedPlaces (fates : List Fate) (ledger : Ledger) :
    (failedPlaces fates ledger).Nodup := by
  unfold failedPlaces
  rw [List.nodup_append]
  refine ⟨nodup_droppedPlaces fates, (nodup_places fates).filter _, fun a ha b hb hab => ?_⟩
  obtain ⟨fate, h, dropped⟩ := mem_droppedPlaces.1 ha
  obtain ⟨record, registered, hk⟩ := mem_places.1 (List.mem_filter.1 hb).1
  rw [← hab, h] at hk
  cases hk
  cases dropped

theorem length_failedPlaces : (failedPlaces fates (ledgerOf fates outcomes)).length =
    (gathered fates).dropped + failures (gathered fates).records outcomes := by
  unfold failedPlaces
  rw [List.length_append, length_droppedPlaces, failures_eq, List.countP_eq_length_filter]

theorem length_deliveredPlaces : (deliveredPlaces fates (ledgerOf fates outcomes)).length =
    (gathered fates).records.length - failures (gathered fates).records outcomes := by
  have split := List.length_eq_countP_add_countP (ledgerOf fates outcomes).hit.contains
    (l := (kept fates).map Prod.fst)
  rw [← failures_eq, List.length_map] at split
  unfold deliveredPlaces
  rw [← List.countP_eq_length_filter, ← map_snd_kept, List.length_map, map_snd_kept]
  simp only [Bool.not_eq_true] at split
  have same : ((kept fates).map Prod.fst).countP
      (fun i => !(ledgerOf fates outcomes).hit.contains i) =
      ((kept fates).map Prod.fst).countP
        fun i => decide ((ledgerOf fates outcomes).hit.contains i = false) :=
    List.countP_congr fun i _ => by simp
  omega

theorem exactly_one (points : ∀ record ∈ (gathered fates).records, record.series ≠ [])
    (hi : i < fates.length) :
    let ledger := ledgerOf fates outcomes
    Delivered fates ledger i ∧ ¬ Failed fates ledger i ∧ ¬ Absent fates i ∨
      ¬ Delivered fates ledger i ∧ Failed fates ledger i ∧ ¬ Absent fates i ∨
      ¬ Delivered fates ledger i ∧ ¬ Failed fates ledger i ∧ Absent fates i := by
  intro ledger
  rw [← mem_deliveredPlaces points, ← mem_failedPlaces]
  unfold deliveredPlaces failedPlaces Absent
  rw [List.mem_append, List.mem_filter, List.mem_filter, mem_droppedPlaces, mem_places,
    List.getElem?_eq_getElem hi]
  cases fates[i] with
  | kept record registered =>
    cases ledger.hit.contains i <;> simp [Fate.isDropped]
  | nothing | untranslated | refused => simp [Fate.isDropped]

theorem ofCounts_eq_success {written failed : Nat} :
    ExportResult.ofCounts written failed = .success ↔ 0 < written ∨ failed = 0 := by
  unfold ExportResult.ofCounts
  by_cases hw : written = 0
  · by_cases hf : failed = 0 <;> simp [hw, hf]
  · have pos : 0 < written := Nat.pos_of_ne_zero hw
    simp [hw, pos]

theorem success_iff (points : ∀ record ∈ (gathered fates).records, record.series ≠ [])
    (outcomes : List (Except Failure Unit)) :
    ExportResult.ofCounts (deliveredPlaces fates (ledgerOf fates outcomes)).length
        (failedPlaces fates (ledgerOf fates outcomes)).length = .success ↔
      (∃ i, Delivered fates (ledgerOf fates outcomes) i) ∨
        ∀ i, ¬ Failed fates (ledgerOf fates outcomes) i := by
  rw [ofCounts_eq_success, List.length_pos_iff_exists_mem, List.length_eq_zero_iff,
    List.eq_nil_iff_forall_not_mem]
  simp only [mem_deliveredPlaces points, mem_failedPlaces]

theorem ledgerOf_places (length_eq : outcomes.length =
    (seriesRuns (gathered fates).records).length) :
    (ledgerOf fates outcomes).flatMap Prod.fst = placed (kept fates) := by
  have all : ((seriesRuns (gathered fates).records).map (replace fates)).length ≤
      outcomes.length := by
    simp [length_eq]
  rw [← replace_indexedSeries, List.flatMap_def, ledgerOf, List.map_fst_zip all]
  unfold replace
  rw [← List.map_flatten, flatten_runsOf]

theorem length_placed : (placed (kept fates)).length = seriesCount (gathered fates).records := by
  unfold placed seriesCount
  rw [← map_snd_kept, List.flatMap_map, List.length_flatMap, List.length_flatMap]
  simp

theorem Delivered.accepted (h : Delivered fates ledger i)
    (all : ledger.flatMap Prod.fst = placed (kept fates)) :
    ∃ w ∈ ledger, w.1 ≠ [] ∧ w.2 = .ok () := by
  obtain ⟨record, registered, hi, points, sent⟩ := h
  obtain ⟨series, hs⟩ := List.exists_mem_of_ne_nil _ points
  have mem : (i, series) ∈ ledger.flatMap Prod.fst := by
    rw [all]
    exact List.mem_flatMap.2 ⟨(i, record), mem_kept.2 ⟨registered, hi⟩,
      List.mem_map.2 ⟨series, hs, rfl⟩⟩
  obtain ⟨w, hw, hm⟩ := List.mem_flatMap.1 mem
  exact ⟨w, hw, List.ne_nil_of_mem hm, sent w hw (List.mem_map.2 ⟨_, hm, rfl⟩)⟩

/-! ### The accounts of an export -/

def Ledger.calls (ledger : Ledger) : List (Call × Except Failure Unit) :=
  ledger.map fun w => (writeOf w.1, w.2)

theorem calls_ledgerOf : (ledgerOf fates outcomes).calls =
    ((seriesRuns (gathered fates).records).map writeOf).zip outcomes := by
  unfold Ledger.calls ledgerOf
  rw [List.zip_map_left, List.zip_map_left, List.map_map]
  have same : ∀ run, writeOf (replace fates run) = writeOf run := by
    intro run
    simp [replace, Function.comp_def]
  exact List.map_congr_left fun w _ => congrArg (·, w.2) (same w.1)

namespace MetricExporter
open Procedure Stage

variable {e : MetricExporter} {batch : List ResourceMetrics}

/-- An export that is not refused, where nothing fails but single records and calls, and its
ledger: whatever the strategy, the registered identities and the answers of the service, each
candidate is delivered, failed or absent; the export succeeds if one is delivered or none failed;
and both are counted once each, however many writes their series are in. -/
theorem exportBatch_accounts (own : ∀ c ∈ e.target.candidates batch, c.FailsAlone)
    (service : Service) (strategy : Strategy) (registered : List Identity) (inFlight : Int) :
    ∃ result final, ∃ sent : List (Call × Except Failure Unit), ∃ ledger : Ledger,
      (e.exportBatch (some batch)).run (Stage.handle (served service))
        (opened strategy registered inFlight : Stage (List ResourceMetrics)) =
          some (result, final) ∧
      let fates := fatesOf strategy service [] registered (e.target.candidates batch)
      sent.map Prod.fst = (fates.filterMap Fate.sent?).map Call.createDescriptor ∧
      service.replies [] final.made = sent ++ ledger.calls ∧
      ledger.flatMap Prod.fst = placed (kept fates) ∧
      (∀ i < (e.target.candidates batch).length,
        Delivered fates ledger i ∧ ¬ Failed fates ledger i ∧ ¬ Absent fates i ∨
        ¬ Delivered fates ledger i ∧ Failed fates ledger i ∧ ¬ Absent fates i ∨
        ¬ Delivered fates ledger i ∧ ¬ Failed fates ledger i ∧ Absent fates i) ∧
      (result = .success ↔ (∃ i, Delivered fates ledger i) ∨ ∀ i, ¬ Failed fates ledger i) ∧
      (result = .success → (∃ i, Failed fates ledger i) →
        ∃ series ≠ [], (Call.writeSeries series, .ok ()) ∈ service.replies [] final.made) ∧
      ∃ delivered failed : List Nat, delivered.Nodup ∧ failed.Nodup ∧
        (∀ i, i ∈ delivered ↔ Delivered fates ledger i) ∧
        (∀ i, i ∈ failed ↔ Failed fates ledger i) ∧
        result = .ofCounts delivered.length failed.length ∧
        (kept fates ≠ [] → LogEntry.seriesWritten (placed (kept fates)).length delivered.length
          e.projectName ∈ final.log) := by
  obtain ⟨result, final, t, outcomes, run, exported, replies, made_eq, log_eq⟩ :=
    run_exportBatch own service strategy registered inFlight
  generalize fatesOf strategy service [] registered (e.target.candidates batch) = fates at exported
  obtain ⟨length_eq, sent, sent_eq, calls_eq⟩ := exported.calls
  obtain ⟨first, second, t_eq, course, -⟩ := exported.parts
  have points : ∀ record ∈ (gathered fates).records, record.series ≠ [] := by
    intro record hr
    obtain ⟨c, hc, heq⟩ := record_of_course course hr
    exact (MetricTarget.belongs_of_mem_candidates hc heq).series
  have all := ledgerOf_places length_eq
  have result_eq : result = .ofCounts (deliveredPlaces fates (ledgerOf fates outcomes)).length
      (failedPlaces fates (ledgerOf fates outcomes)).length := by
    rw [exported.result_eq, length_deliveredPlaces, length_failedPlaces]
  have success := success_iff points outcomes
  rw [← calls_ledgerOf] at calls_eq
  rw [← made_eq, calls_eq] at replies
  refine ⟨result, final, sent, ledgerOf fates outcomes, run, sent_eq, replies.symm, all,
    fun i hi => exactly_one points (by rwa [length_of_course course]), ?_, ?_,
    deliveredPlaces fates _, failedPlaces fates _, nodup_deliveredPlaces .., nodup_failedPlaces ..,
    fun i => mem_deliveredPlaces points, fun i => mem_failedPlaces, result_eq, ?_⟩
  · rw [result_eq]
    exact success
  · intro ok failed
    rw [result_eq, success] at ok
    obtain ⟨i, delivered⟩ : ∃ i, Delivered fates (ledgerOf fates outcomes) i :=
      ok.resolve_right fun none => failed.elim none
    obtain ⟨w, hw, series, accepted⟩ := delivered.accepted all
    refine ⟨w.1.map Prod.snd, by simpa using series, ?_⟩
    rw [← replies, List.mem_append]
    exact .inr (List.mem_map.2 ⟨w, hw, by rw [accepted]⟩)
  · intro some
    rw [log_eq, t_eq, length_placed, length_deliveredPlaces]
    have records : (gathered fates).records.isEmpty = false := by
      rw [← map_snd_kept]
      simpa using some
    simp [Stage.told, MetricExporter.told, records]

/-- Two metrics fail and one is absent, so that the batch succeeds exactly if the other is
delivered. -/
theorem exportBatch_accounts_sample :
    (∀ c ∈ Sample.exporter.target.candidates Sample.metrics, c.FailsAlone) ∧
    ∃ result final ledger,
      (Sample.exporter.exportBatch (some Sample.metrics)).run
        (Stage.handle (served Sample.service))
        (opened .sendOnce [] 0 : Stage (List ResourceMetrics)) = some (result, final) ∧
      let fates := fatesOf .sendOnce Sample.service [] []
        (Sample.exporter.target.candidates Sample.metrics)
      Absent fates 1 ∧ Failed fates ledger 2 ∧ Failed fates ledger 3 ∧
        (result = .success ↔ Delivered fates ledger 0) := by
  refine ⟨Sample.failsAlone, ?_⟩
  obtain ⟨result, final, -, ledger, run, -, -, -, -, success, -⟩ :=
    exportBatch_accounts Sample.failsAlone Sample.service .sendOnce [] 0
  have users : Failed (fatesOf .sendOnce Sample.service [] []
      (Sample.exporter.target.candidates Sample.metrics)) ledger 2 := .inl rfl
  refine ⟨result, final, ledger, run, rfl, users, .inr (.inl ⟨_, rfl⟩), success.trans ⟨?_, ?_⟩⟩
  · rintro (⟨i, delivered⟩ | none)
    · obtain ⟨record, registered, hi, -⟩ := id delivered
      match i, hi with
      | 0, _ => exact delivered
      | i + 4, hi => cases hi
    · exact absurd users (none 2)
  · exact fun delivered => .inl ⟨0, delivered⟩

end MetricExporter

end CloudTelemetry
