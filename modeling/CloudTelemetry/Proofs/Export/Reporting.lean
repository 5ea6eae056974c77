import CloudTelemetry.Proofs.Export.Accounts

/-!
# What the report of a write tells

After its last write an export reports how many series were written, and of how many records. The
second number leaves out the records with a series in a write that failed. The first counts all
series of all records, so the report is truthful exactly if no write failed (`reports_write`).
-/

namespace CloudTelemetry
open MetricExporter

variable {records : List MetricRecord} {ledger : Ledger} {outcomes : List (Except Failure Unit)}

def Ledger.accepted (ledger : Ledger) : Nat :=
  ((ledger.filter fun w => w.2.isOk).flatMap Prod.fst).length

/-- The numbers of a report are those of the series in writes that succeeded, and of the records all
of whose series are in such writes. -/
structure Truthful (ledger : Ledger) (records : List MetricRecord) (series metrics : Nat) :
    Prop where
  series : series = ledger.accepted
  metrics : ∃ whole : List Nat, whole.Nodup ∧ metrics = whole.length ∧
    ∀ i, i ∈ whole ↔ i < records.length ∧ ∀ w ∈ ledger, i ∈ w.1.map Prod.fst → w.2 = .ok ()

/-! ### Series -/

theorem Ledger.accepted_cons (w : List (Nat × TimeSeries) × Except Failure Unit)
    (ledger : Ledger) :
    Ledger.accepted (w :: ledger) = (if w.2.isOk then w.1.length else 0) + ledger.accepted := by
  unfold Ledger.accepted
  cases ok : w.2.isOk <;> simp [ok]

theorem Ledger.accepted_le (ledger : Ledger) :
    ledger.accepted ≤ (ledger.flatMap Prod.fst).length := by
  induction ledger with
  | nil => exact Nat.le_refl _
  | cons w ledger ih =>
    rw [Ledger.accepted_cons, List.flatMap_cons, List.length_append]
    split <;> omega

theorem isOk_iff {outcome : Except Failure Unit} : outcome.isOk = true ↔ outcome = .ok () := by
  cases outcome <;> simp [Except.isOk, Except.toBool]

theorem Ledger.accepted_eq_iff (filled : ∀ w ∈ ledger, w.1 ≠ []) :
    ledger.accepted = (ledger.flatMap Prod.fst).length ↔ ∀ w ∈ ledger, w.2 = .ok () := by
  induction ledger with
  | nil => exact iff_of_true rfl nofun
  | cons w ledger ih =>
    obtain ⟨some, later⟩ := List.forall_mem_cons.1 filled
    have here := List.length_pos_iff.2 some
    have most := Ledger.accepted_le ledger
    rw [List.forall_mem_cons, ← ih later, ← isOk_iff, Ledger.accepted_cons, List.flatMap_cons,
      List.length_append]
    cases w.2.isOk with
    | true => simp
    | false =>
      simp only [Bool.false_eq_true, if_false, false_and, iff_false]
      omega

/-! ### Records -/

/-- The writes of records with their outcomes, each series under the rank of its record. -/
def ranked (records : List MetricRecord) (outcomes : List (Except Failure Unit)) : Ledger :=
  (seriesRuns records).zip outcomes

theorem ranked_runs (length_eq : outcomes.length = (seriesRuns records).length) :
    (ranked records outcomes).map Prod.fst = seriesRuns records :=
  List.map_fst_zip (Nat.le_of_eq length_eq.symm)

theorem ranked_filled : ∀ w ∈ ranked records outcomes, w.1 ≠ [] := by
  intro w hw
  have bounds := length_of_mem_runsOf (by decide) (List.of_mem_zip (a := w.1) (b := w.2) hw).1
  exact List.length_pos_iff.1 bounds.1

theorem calls_ranked : (ranked records outcomes).calls =
    ((seriesRuns records).map writeOf).zip outcomes := by
  unfold Ledger.calls ranked
  rw [List.zip_map_left]
  rfl

theorem length_indexedSeries (records : List MetricRecord) :
    (indexedSeries records).length = seriesCount records := by
  rw [seriesCount, ← map_snd_indexedSeries, List.length_map]

def wholeRanks (records : List MetricRecord) (ledger : Ledger) : List Nat :=
  (List.range records.length).filter fun i => !ledger.hit.contains i

theorem mem_wholeRanks {i : Nat} : i ∈ wholeRanks records ledger ↔
    i < records.length ∧ ∀ w ∈ ledger, i ∈ w.1.map Prod.fst → w.2 = .ok () := by
  unfold wholeRanks
  rw [List.mem_filter, List.mem_range, Bool.not_eq_true', ← Bool.not_eq_true,
    List.contains_iff_mem, mem_hit]
  simp only [not_exists, not_and, not_not]

theorem length_wholeRanks : (wholeRanks records (ranked records outcomes)).length =
    records.length - failures records outcomes := by
  have split := List.length_eq_countP_add_countP (ranked records outcomes).hit.contains
    (l := List.range records.length)
  have hit : failures records outcomes =
      (List.range records.length).countP (ranked records outcomes).hit.contains := rfl
  have same : (wholeRanks records (ranked records outcomes)).length =
      (List.range records.length).countP
        fun i => decide ¬ (ranked records outcomes).hit.contains i = true := by
    rw [wholeRanks, ← List.countP_eq_length_filter]
    exact List.countP_congr fun i _ => by simp
  rw [List.length_range] at split
  omega

namespace MetricExporter
open Procedure Stage

variable {Batch : Type} {e : MetricExporter} {t : Trace}

/-! ### The run -/

theorem told_of_writing {runs : List (List (Nat × TimeSeries))} (h : Writing e runs t outcomes) :
    ∀ entry ∈ Stage.told t, ∃ count cause,
      entry = .writeFailed .metrics count e.projectName cause := by
  induction h with
  | nil => exact nofun
  | written next ih => exact ih
  | failed cause seen next ih => exact List.forall_mem_cons.2 ⟨⟨_, _, rfl⟩, ih⟩

/-- Calls are made and entries told, and nothing else is asked for. -/
def writing : Protocol Action Action.Reply Unit where
  allows _ a := (∃ c, a = .call c) ∨ ∃ entry, a = .log entry
  after _ _ _ := ()

abbrev Writes {α : Type} (p : Steps α) : Prop := Obeys writing (fun later _ => later = ()) () p

theorem writes_log (entry : LogEntry) : Writes (Steps.log entry) :=
  obeys_request (.inr ⟨entry, rfl⟩) fun _ => rfl

theorem writes_writeRuns (runs : List (List (Nat × TimeSeries))) : Writes (e.writeRuns runs) := by
  induction runs with
  | nil => exact obeys_pure rfl
  | cons run runs ih =>
    refine stays_bind ?_ fun outcome => ?_
    · exact stays_bind (obeys_request (.inl ⟨_, rfl⟩) fun _ => rfl) fun _ => obeys_pure rfl
    · cases outcome with
      | ok u => exact ih
      | error cause =>
        exact stays_bind (writes_log _) fun _ => stays_bind ih fun _ => obeys_pure rfl

theorem writes_write (records : List MetricRecord) : Writes (e.write records) := by
  refine stays_bind (writes_writeRuns _) fun hit => ?_
  dsimp only
  split
  · exact stays_bind (writes_log _) fun _ => obeys_pure rfl
  · exact obeys_pure rfl

theorem run_write (e : MetricExporter) (records : List MetricRecord) (service : Service)
    (s : Stage Batch) :
    ∃ counts final,
      (e.write records).run (Stage.handle (served service)) s = some (counts, final) := by
  refine (writes_write records).run_eq_some (fun _ _ => True) (fun _ s a allowed _ => ?_) trivial
  rcases allowed with ⟨c, rfl⟩ | ⟨entry, rfl⟩
  · exact ⟨_, _, rfl, trivial⟩
  · exact ⟨_, _, rfl, trivial⟩

/-- The writes of records at a service, with the numbers that are reported in the end: every series
is in one write, at most 200 are in each, and the service answers them in turn. -/
structure Reported (e : MetricExporter) (records : List MetricRecord) (service : Service)
    (s final : Stage Batch) (ledger : Ledger) (series metrics : Nat) : Prop where
  run : ∃ counts, (e.write records).run (Stage.handle (served service)) s = some (counts, final)
  runs : ledger.map Prod.fst = runsOf 200 (indexedSeries records)
  made : final.made = s.made ++ ledger.calls.map Prod.fst
  replies : ledger.calls = service.replies s.made (ledger.calls.map Prod.fst)
  log : ∃ warnings, final.log = s.log ++ warnings ++
      [.seriesWritten series metrics e.projectName] ∧
    ∀ entry ∈ warnings, ∃ count cause, entry = .writeFailed .metrics count e.projectName cause

theorem Reported.outcome {records : List MetricRecord} {service : Service} {s final : Stage Batch}
    {ledger : Ledger} {series metrics : Nat}
    (h : Reported e records service s final ledger series metrics) :
    ∀ w ∈ ledger, ∃ before, w.2 = service before (writeOf w.1) := by
  intro w hw
  have called : (writeOf w.1, w.2) ∈ ledger.calls := List.mem_map_of_mem hw
  rw [h.replies] at called
  exact Service.eq_of_mem_replies called

/-- Where there are records, their writes are reported, whatever the service answers. The number of
records is right. The number of series is that of all series, so that the report is truthful exactly
if no write failed. -/
theorem reports_write (e : MetricExporter) {records : List MetricRecord} (nonempty : records ≠ [])
    (service : Service) (s : Stage Batch) :
    ∃ final ledger metrics,
      Reported e records service s final ledger (seriesCount records) metrics ∧
      Truthful ledger records ledger.accepted metrics ∧
      (Truthful ledger records (seriesCount records) metrics ↔ ∀ w ∈ ledger, w.2 = .ok ()) := by
  obtain ⟨counts, final, run⟩ := run_write e records service s
  obtain ⟨t, goes, answers⟩ := goes_of_run run
  obtain ⟨second, outcomes, writing, rfl, -⟩ := goes_write goes
  obtain ⟨made_eq, replies, log_eq⟩ := answers_kept answers
  obtain ⟨length_eq, calls_eq⟩ := calls_of_writing writing
  have report : e.told records (failures records outcomes) = [⟨.log (.seriesWritten
      (seriesCount records) (records.length - failures records outcomes) e.projectName), ()⟩] := by
    cases records with
    | nil => exact (nonempty rfl).elim
    | cons => rfl
  have calls : Trace.calls (second ++ e.told records (failures records outcomes)) =
      (ranked records outcomes).calls := by
    rw [report, Trace.calls_append, calls_eq, calls_ranked]
    exact List.append_nil _
  rw [calls] at made_eq replies
  rw [told_append, report, ← List.append_assoc] at log_eq
  have whole : Truthful (ranked records outcomes) records (ranked records outcomes).accepted
      (records.length - failures records outcomes) :=
    ⟨rfl, wholeRanks records (ranked records outcomes), List.nodup_range.filter _,
      length_wholeRanks.symm, fun _ => mem_wholeRanks⟩
  have all : ((ranked records outcomes).flatMap Prod.fst).length = seriesCount records := by
    rw [List.flatMap_def, ranked_runs length_eq, flatten_runsOf, length_indexedSeries]
  refine ⟨final, ranked records outcomes, _, ⟨⟨counts, run⟩, ranked_runs length_eq, made_eq, replies,
    Stage.told second, log_eq, told_of_writing writing⟩, whole, ?_⟩
  rw [← Ledger.accepted_eq_iff ranked_filled, all]
  exact ⟨fun truthful => truthful.series.symm, fun same => same ▸ whole⟩

namespace Sample

def ordered : List MetricRecord :=
  (exporter.target.candidates [⟨some .empty, [⟨none, [gauge "orders" [3]]⟩]⟩]).filterMap
    Candidate.record?

def refusing : Service := fun _ c => if c.isWrite then fails .badValue else .ok ()

def stage : Stage (List ResourceMetrics) := Stage.new (.new .sendOnce [])

end Sample

/-- Where every write succeeds, what is reported is true. -/
theorem reports_write_orders :
    ∃ final ledger metrics,
      Reported Sample.exporter Sample.ordered Sample.service Sample.stage final ledger 1 metrics ∧
      Truthful ledger Sample.ordered 1 metrics := by
  obtain ⟨final, ledger, metrics, reported, -, truthful⟩ :=
    reports_write Sample.exporter (List.cons_ne_nil _ _ : Sample.ordered ≠ []) Sample.service
      Sample.stage
  refine ⟨final, ledger, metrics, reported, truthful.2 fun w hw => ?_⟩
  obtain ⟨before, answered⟩ := reported.outcome w hw
  exact answered

/-- The only write fails, and yet one series is reported as written. -/
theorem not_truthful :
    Sample.ordered ≠ [] ∧ ¬ ∃ final ledger series metrics,
      Reported Sample.exporter Sample.ordered Sample.refusing Sample.stage final ledger series
        metrics ∧ Truthful ledger Sample.ordered series metrics := by
  refine ⟨List.cons_ne_nil _ _, ?_⟩
  rintro ⟨final, ledger, series, metrics, reported, truthful⟩
  have refused : ledger.accepted = 0 := by
    unfold Ledger.accepted
    rw [List.filter_eq_nil_iff.2]
    · rfl
    · intro w hw ok
      obtain ⟨before, answered⟩ := reported.outcome w hw
      rw [answered] at ok
      cases ok
  obtain ⟨counts, run⟩ := reported.run
  cases run
  obtain ⟨warnings, log_eq, -⟩ := reported.log
  have last : some (LogEntry.seriesWritten 1 0 Sample.exporter.projectName) =
      some (.seriesWritten series metrics Sample.exporter.projectName) :=
    (congrArg List.getLast? log_eq).trans List.getLast?_concat
  cases last
  exact absurd (truthful.series.trans refused) (by decide)

end MetricExporter

end CloudTelemetry
