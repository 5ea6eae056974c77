import CloudTelemetry.Export.Metrics
import Mathlib.Data.List.TakeWhile

/-!
# The courses that an export can take

What an export of metrics asks for, and what it makes of the replies, whoever gives them. `Passage`
has one constructor for each way of a candidate through the first half of an export, and
`goes_judge` says that there are no others; `Course` is the way of a whole batch, and `Writing` that
of the runs that are written. `goes_exportBatch` puts the two halves together. All that holds of
exports, alone or among others, is read off these.
-/

namespace CloudTelemetry

/-- What becomes of a candidate before anything is written. -/
inductive Fate where
  /-- there is nothing to send -/
  | nothing
  /-- it has no form -/
  | untranslated
  /-- its descriptor was refused -/
  | refused (record : MetricRecord)
  /-- it is written; whether its descriptor was registered first -/
  | kept (record : MetricRecord) (registered : Bool)

namespace Fate

def record? : Fate → Option MetricRecord
  | .kept record _ => some record
  | _ => none

def isDropped : Fate → Bool
  | .untranslated | .refused _ => true
  | _ => false

def sent? : Fate → Option Descriptor
  | .refused record | .kept record true => some record.descriptor
  | _ => none

def verdict : Fate → Verdict
  | .nothing => .nothing
  | .untranslated | .refused _ => .dropped
  | .kept record _ => .accepted record

end Fate

/-- The batch goes on after the candidate: what can fail is the record alone. -/
def Candidate.FailsAlone : Candidate → Prop
  | .metric _ (.error cause) => cause.concernsRecord = true
  | .metric _ (.ok _) => True
  | .unmapped _ => False

instance : DecidablePred Candidate.FailsAlone := fun c =>
  match c with
  | .metric _ (.error cause) => inferInstanceAs (Decidable (cause.concernsRecord = true))
  | .metric _ (.ok _) => inferInstanceAs (Decidable True)
  | .unmapped _ => inferInstanceAs (Decidable False)

def Candidate.record? : Candidate → Option MetricRecord
  | .metric _ (.ok record) => record
  | _ => none

def Call.isWrite : Call → Bool
  | .writeSeries _ => true
  | _ => false

namespace MetricExporter
open Procedure

variable {t : Trace}

/-! ### Single steps -/

theorem goes_act {action : Action} {a : action.Reply} :
    (Steps.act action).Goes t a ↔ t = [⟨action, a⟩] :=
  goes_request

theorem goes_log {entry : LogEntry} {a : Unit} :
    (Steps.log entry).Goes t a ↔ t = [⟨.log entry, ()⟩] :=
  goes_request

theorem goes_call {c : Call} {a : Except Failure Unit} (h : (Steps.call c).Goes t a) :
    ∃ outcome, t = [⟨.call c, outcome⟩] ∧ a = outcome.mapError c.seen := by
  obtain ⟨_, outcome, _, rfl, h₁, h₂⟩ := goes_bind.1 h
  obtain rfl := goes_act.1 h₁
  obtain ⟨rfl, rfl⟩ := goes_pure.1 h₂
  exact ⟨outcome, rfl, rfl⟩

/-! ### One candidate -/

/-- The ways of a candidate through the first half of an export. -/
inductive Passage : Candidate → Trace → Fate → Prop
  | nothing {name} : Passage (.metric name (.ok none)) [] .nothing
  | untranslated {name cause} (own : cause.concernsRecord = true) :
      Passage (.metric name (.error cause)) [⟨.log (.recordDropped .metrics name cause), ()⟩]
        .untranslated
  | skipped {name record} :
      Passage (.metric name (.ok (some record))) [⟨.claim record.identity, false⟩]
        (.kept record false)
  | registered {name record} (remembers : Bool) {told : Trace}
      (ht : told = if remembers then [⟨.log (.descriptorRegistered record.identity.name), ()⟩]
        else []) :
      Passage (.metric name (.ok (some record)))
        (⟨.claim record.identity, true⟩ :: ⟨.call (.createDescriptor record.descriptor), .ok ()⟩ ::
          ⟨.settle record.identity true, remembers⟩ :: told) (.kept record true)
  | refused {name record} (cause seen : Failure) (remembers : Bool) :
      Passage (.metric name (.ok (some record)))
        [⟨.claim record.identity, true⟩,
          ⟨.call (.createDescriptor record.descriptor), .error cause⟩,
          ⟨.settle record.identity false, remembers⟩,
          ⟨.log (.recordDropped .metrics name (.registration record.descriptor.type seen)), ()⟩]
        (.refused record)

theorem goes_ensureDescriptor {record : MetricRecord} {a : Except Failure Unit}
    (h : (ensureDescriptor record).Goes t a) :
    (t = [⟨.claim record.identity, false⟩] ∧ a = .ok ()) ∨
    (∃ remembers : Bool, t = ⟨.claim record.identity, true⟩ ::
        ⟨.call (.createDescriptor record.descriptor), .ok ()⟩ ::
        ⟨.settle record.identity true, remembers⟩ ::
        (if remembers then [⟨.log (.descriptorRegistered record.identity.name), ()⟩] else []) ∧
      a = .ok ()) ∨
    (∃ (cause seen : Failure) (remembers : Bool), t = [⟨.claim record.identity, true⟩,
        ⟨.call (.createDescriptor record.descriptor), .error cause⟩,
        ⟨.settle record.identity false, remembers⟩] ∧
      a = .error (.registration record.descriptor.type seen)) := by
  obtain ⟨_, claimed, _, rfl, h₁, ha⟩ := goes_bind.1 h
  obtain rfl := goes_act.1 h₁
  cases claimed with
  | false =>
    obtain ⟨rfl, rfl⟩ := goes_pure.1 ha
    exact .inl ⟨rfl, rfl⟩
  | true =>
    obtain ⟨_, told, _, rfl, h₂, hb⟩ := goes_bind.1 ha
    obtain ⟨outcome, rfl, rfl⟩ := goes_call h₂
    cases outcome with
    | ok u =>
      obtain ⟨_, remembers, _, rfl, h₃, hc⟩ := goes_bind.1 hb
      obtain rfl := goes_act.1 h₃
      refine .inr (.inl ⟨remembers, ?_⟩)
      cases remembers with
      | false =>
        obtain ⟨rfl, rfl⟩ := goes_pure.1 hc
        exact ⟨rfl, rfl⟩
      | true =>
        obtain ⟨_, _, _, rfl, h₄, hd⟩ := goes_bind.1 hc
        obtain rfl := goes_log.1 h₄
        obtain ⟨rfl, rfl⟩ := goes_pure.1 hd
        exact ⟨rfl, rfl⟩
    | error cause =>
      obtain ⟨_, remembers, _, rfl, h₃, hc⟩ := goes_bind.1 hb
      obtain rfl := goes_act.1 h₃
      obtain ⟨rfl, rfl⟩ := goes_pure.1 hc
      exact .inr (.inr ⟨cause, _, remembers, rfl, rfl⟩)

theorem goes_drop {name : String} {cause : Failure} {v : Verdict}
    (h : (drop name cause).Goes t v) :
    cause.concernsRecord = true ∧ t = [⟨.log (.recordDropped .metrics name cause), ()⟩] ∧
        v = .dropped ∨
      cause.concernsRecord = false ∧ t = [] ∧ v = .fatal cause := by
  cases own : cause.concernsRecord with
  | true =>
    simp only [drop, own, if_true] at h
    obtain ⟨_, _, _, rfl, h₁, h₂⟩ := goes_bind.1 h
    obtain rfl := goes_log.1 h₁
    obtain ⟨rfl, rfl⟩ := goes_pure.1 h₂
    exact .inl ⟨rfl, rfl, rfl⟩
  | false =>
    simp only [drop, own] at h
    obtain ⟨rfl, rfl⟩ := goes_pure.1 h
    exact .inr ⟨rfl, rfl, rfl⟩

theorem goes_judge {c : Candidate} {v : Verdict} (h : (judge c).Goes t v) :
    (∃ fate, Passage c t fate ∧ v = fate.verdict) ∨
      ¬ c.FailsAlone ∧ t = [] ∧ ∃ cause, v = .fatal cause := by
  rcases c with ⟨name, cause | _ | record⟩ | cause
  · rcases goes_drop h with ⟨own, rfl, rfl⟩ | ⟨other, rfl, rfl⟩
    · exact .inl ⟨_, .untranslated own, rfl⟩
    · have doom : ¬ cause.concernsRecord = true := by
        rw [other]
        exact Bool.false_ne_true
      exact .inr ⟨doom, rfl, cause, rfl⟩
  · obtain ⟨rfl, rfl⟩ := goes_pure.1 h
    exact .inl ⟨_, .nothing, rfl⟩
  · obtain ⟨t₁, a, t₂, rfl, h₁, h₂⟩ := goes_bind.1 h
    rcases goes_ensureDescriptor h₁ with ⟨rfl, rfl⟩ | ⟨remembers, rfl, rfl⟩ |
      ⟨cause, seen, remembers, rfl, rfl⟩
    · obtain ⟨rfl, rfl⟩ := goes_pure.1 h₂
      exact .inl ⟨_, .skipped, rfl⟩
    · obtain ⟨rfl, rfl⟩ := goes_pure.1 h₂
      rw [List.append_nil]
      exact .inl ⟨_, .registered remembers rfl, rfl⟩
    · rcases goes_drop h₂ with ⟨-, rfl, rfl⟩ | ⟨other, -⟩
      · exact .inl ⟨_, .refused cause seen remembers, rfl⟩
      · cases other
  · obtain ⟨rfl, rfl⟩ := goes_pure.1 h
    exact .inr ⟨id, rfl, cause, rfl⟩

/-! ### A batch -/

/-- The ways of a batch through the first half of an export. -/
inductive Course : List Candidate → Trace → List Fate → Prop
  | nil : Course [] [] []
  | cons {c t fate rest later fates} (first : Passage c t fate) (next : Course rest later fates) :
      Course (c :: rest) (t ++ later) (fate :: fates)

theorem calls_of_passage {c : Candidate} {fate : Fate} (h : Passage c t fate) :
    t.calls.map Prod.fst = (fate.sent?.map Call.createDescriptor).toList := by
  cases h with
  | registered remembers ht =>
    subst ht
    cases remembers <;> rfl
  | nothing | untranslated | skipped | refused => rfl

theorem record_of_passage {c : Candidate} {fate : Fate} (h : Passage c t fate)
    {record : MetricRecord} (hr : fate.record? = some record) : c.record? = some record := by
  cases h with
  | nothing | untranslated | refused => cases hr
  | skipped | registered => exact hr

theorem length_of_course {cs : List Candidate} {fates : List Fate} (h : Course cs t fates) :
    fates.length = cs.length := by
  induction h with
  | nil => rfl
  | cons first next ih => rw [List.length_cons, List.length_cons, ih]

theorem passage_of_course {cs : List Candidate} {fates : List Fate} (h : Course cs t fates)
    {c : Candidate} (hc : c ∈ cs) : ∃ own fate, Passage c own fate ∧ ∀ x ∈ own, x ∈ t := by
  induction h with
  | nil => cases hc
  | @cons d part fate rest later fates first next ih =>
    rcases List.mem_cons.1 hc with rfl | hc
    · exact ⟨part, fate, first, fun x hx => List.mem_append_left _ hx⟩
    · obtain ⟨own, f, passage, sub⟩ := ih hc
      exact ⟨own, f, passage, fun x hx => List.mem_append_right _ (sub x hx)⟩

theorem passage_of_fate {cs : List Candidate} {fates : List Fate} (h : Course cs t fates)
    {fate : Fate} (hf : fate ∈ fates) :
    ∃ c ∈ cs, ∃ own, Passage c own fate ∧ ∀ x ∈ own, x ∈ t := by
  induction h with
  | nil => cases hf
  | @cons c part f rest later fates first next ih =>
    rcases List.mem_cons.1 hf with rfl | hf
    · exact ⟨c, List.mem_cons_self, part, first, fun x hx => List.mem_append_left _ hx⟩
    · obtain ⟨d, hd, own, passage, sub⟩ := ih hf
      exact ⟨d, List.mem_cons_of_mem _ hd, own, passage,
        fun x hx => List.mem_append_right _ (sub x hx)⟩

theorem record_of_course {cs : List Candidate} {fates : List Fate} (h : Course cs t fates)
    {record : MetricRecord} (hr : record ∈ fates.filterMap Fate.record?) :
    ∃ c ∈ cs, c.record? = some record := by
  obtain ⟨fate, hf, heq⟩ := List.mem_filterMap.1 hr
  obtain ⟨c, hc, own, passage, -⟩ := passage_of_fate h hf
  exact ⟨c, hc, record_of_passage passage heq⟩

theorem record_of_sent {cs : List Candidate} {fates : List Fate} (h : Course cs t fates)
    {d : Descriptor} (hd : d ∈ fates.filterMap Fate.sent?) :
    ∃ c ∈ cs, ∃ record, c.record? = some record ∧ record.descriptor = d := by
  obtain ⟨fate, hf, heq⟩ := List.mem_filterMap.1 hd
  obtain ⟨c, hc, own, passage, -⟩ := passage_of_fate h hf
  refine ⟨c, hc, ?_⟩
  cases passage with
  | nothing | untranslated | skipped => cases heq
  | registered | refused => exact ⟨_, rfl, Option.some.inj heq⟩

theorem calls_of_course {cs : List Candidate} {fates : List Fate} (h : Course cs t fates) :
    t.calls.map Prod.fst = (fates.filterMap Fate.sent?).map Call.createDescriptor := by
  induction h with
  | nil => rfl
  | @cons c t fate rest later fates first next ih =>
    rw [Trace.calls_append, List.map_append, calls_of_passage first, ih]
    cases h : fate.sent? with
    | none => simp [h]
    | some descriptor => simp [h]

theorem unwritten_of_course {cs : List Candidate} {fates : List Fate} (h : Course cs t fates) :
    t.calls.filter (fun x => x.1.isWrite) = [] := by
  rw [List.filter_eq_nil_iff]
  intro x hx
  have asked : x.1 ∈ t.calls.map Prod.fst := List.mem_map_of_mem hx
  rw [calls_of_course h] at asked
  obtain ⟨d, -, heq⟩ := List.mem_map.1 asked
  rw [← heq]
  exact Bool.false_ne_true

theorem failsAlone_of_passage {c : Candidate} {fate : Fate} (h : Passage c t fate) :
    c.FailsAlone := by
  cases h with
  | untranslated own => exact own
  | nothing | skipped | registered | refused => trivial

theorem failsAlone_of_course {cs : List Candidate} {fates : List Fate} (h : Course cs t fates) :
    ∀ c ∈ cs, c.FailsAlone := by
  intro c hc
  obtain ⟨own, fate, passage, -⟩ := passage_of_course h hc
  exact failsAlone_of_passage passage

/-- The candidates that an export goes through: up to the first that ends the batch. -/
def goneThrough (cs : List Candidate) : List Candidate :=
  cs.takeWhile fun c => decide c.FailsAlone

theorem goneThrough_eq_self {cs : List Candidate} (own : ∀ c ∈ cs, c.FailsAlone) :
    goneThrough cs = cs := by
  unfold goneThrough
  rw [List.takeWhile_eq_self_iff]
  exact fun c hc => decide_eq_true (own c hc)

theorem goneThrough_append {before after : List Candidate} {c : Candidate} {fates : List Fate}
    (h : Course before t fates) (doom : ¬ c.FailsAlone) :
    goneThrough (before ++ c :: after) = before := by
  unfold goneThrough
  rw [List.takeWhile_append_of_pos fun d hd => decide_eq_true (failsAlone_of_course h d hd),
    List.takeWhile_cons_of_neg (by simpa using doom), List.append_nil]

def gathered (fates : List Fate) : Gathered :=
  ⟨fates.filterMap Fate.record?, fates.countP Fate.isDropped⟩

theorem gathered_cons (fate : Fate) (fates : List Fate) :
    gathered (fate :: fates) =
      match fate.verdict with
      | .accepted record => { gathered fates with records := record :: (gathered fates).records }
      | .dropped => { gathered fates with dropped := (gathered fates).dropped + 1 }
      | _ => gathered fates := by
  cases fate <;>
    simp [gathered, Fate.verdict, List.filterMap_cons, List.countP_cons, Fate.record?,
      Fate.isDropped]

/-- A batch takes its course to the end, or up to the first candidate that ends it. -/
theorem goes_gather {cs : List Candidate} {out : Except Failure Gathered}
    (h : (gather cs).Goes t out) :
    (∃ fates, Course cs t fates ∧ out = .ok (gathered fates)) ∨
      ∃ before c after fates cause, cs = before ++ c :: after ∧ ¬ c.FailsAlone ∧
        Course before t fates ∧ out = .error cause := by
  induction cs generalizing t out with
  | nil =>
    obtain ⟨rfl, rfl⟩ := goes_pure.1 h
    exact .inl ⟨[], .nil, rfl⟩
  | cons c cs ih =>
    obtain ⟨t₁, v, t₂, rfl, h₁, h₂⟩ := goes_bind.1 h
    rcases goes_judge h₁ with ⟨fate, first, rfl⟩ | ⟨doom, rfl, cause, rfl⟩
    · -- every verdict goes on with the rest, and adds to what comes of it
      have go : ∃ (f : Gathered → Gathered) (a : Except Failure Gathered),
          (gather cs).Goes t₂ a ∧ out = a.map f ∧
            ∀ fates, gathered (fate :: fates) = f (gathered fates) := by
        have mapped : ∀ {f : Gathered → Gathered},
            (do return (← gather cs).map f : Steps (Except Failure Gathered)).Goes t₂ out →
            ∃ a, (gather cs).Goes t₂ a ∧ out = a.map f := by
          intro f h₂
          obtain ⟨t₃, a, t₄, rfl, h₃, h₄⟩ := goes_bind.1 h₂
          obtain ⟨rfl, rfl⟩ := goes_pure.1 h₄
          exact ⟨a, by rwa [List.append_nil], rfl⟩
        cases fate with
        | nothing => exact ⟨id, out, h₂, by cases out <;> rfl, fun _ => gathered_cons ..⟩
        | untranslated | refused | kept =>
          obtain ⟨a, ha, heq⟩ := mapped h₂
          exact ⟨_, a, ha, heq, fun _ => gathered_cons ..⟩
      obtain ⟨f, a, ha, rfl, step⟩ := go
      rcases ih ha with ⟨fates, next, rfl⟩ | ⟨before, d, after, fates, cause, rfl, doom, next, rfl⟩
      · exact .inl ⟨_, .cons first next, by rw [step]; rfl⟩
      · exact .inr ⟨c :: before, d, after, _, cause, rfl, doom, .cons first next, rfl⟩
    · obtain ⟨rfl, rfl⟩ := goes_pure.1 h₂
      exact .inr ⟨[], c, cs, [], cause, rfl, doom, .nil, rfl⟩

/-! ### Writing -/

variable {e : MetricExporter}

/-- The ways of runs of series to the service, and the outcome of each write. -/
inductive Writing (e : MetricExporter) :
    List (List (Nat × TimeSeries)) → Trace → List (Except Failure Unit) → Prop
  | nil : Writing e [] [] []
  | written {run rest t outcomes} (next : Writing e rest t outcomes) :
      Writing e (run :: rest) (⟨.call (.writeSeries (run.map Prod.snd)), .ok ()⟩ :: t)
        (.ok () :: outcomes)
  | failed {run rest t outcomes} (cause seen : Failure) (next : Writing e rest t outcomes) :
      Writing e (run :: rest) (⟨.call (.writeSeries (run.map Prod.snd)), .error cause⟩ ::
        ⟨.log (.writeFailed .metrics run.length e.projectName seen), ()⟩ :: t)
        (.error cause :: outcomes)

abbrev writeOf (run : List (Nat × TimeSeries)) : Call := .writeSeries (run.map Prod.snd)

theorem calls_of_writing {runs : List (List (Nat × TimeSeries))}
    {outcomes : List (Except Failure Unit)} (h : Writing e runs t outcomes) :
    outcomes.length = runs.length ∧ t.calls = (runs.map writeOf).zip outcomes := by
  induction h with
  | nil => exact ⟨rfl, rfl⟩
  | written next ih =>
    refine ⟨congrArg (· + 1) ih.1, ?_⟩
    rw [List.map_cons, List.zip_cons_cons, ← ih.2]
    rfl
  | failed cause seen next ih =>
    refine ⟨congrArg (· + 1) ih.1, ?_⟩
    rw [List.map_cons, List.zip_cons_cons, ← ih.2]
    rfl

def hitBy (runs : List (List (Nat × TimeSeries))) (outcomes : List (Except Failure Unit)) :
    List Nat :=
  ((runs.zip outcomes).filter fun r => !r.2.isOk).flatMap fun r => r.1.map Prod.fst

theorem goes_writeRuns {runs : List (List (Nat × TimeSeries))} {hit : List Nat}
    (h : (e.writeRuns runs).Goes t hit) :
    ∃ outcomes, Writing e runs t outcomes ∧ hit = hitBy runs outcomes := by
  induction runs generalizing t hit with
  | nil =>
    obtain ⟨rfl, rfl⟩ := goes_pure.1 h
    exact ⟨[], .nil, rfl⟩
  | cons run runs ih =>
    obtain ⟨_, _, _, rfl, h₁, h₂⟩ := goes_bind.1 h
    obtain ⟨outcome, rfl, rfl⟩ := goes_call h₁
    cases outcome with
    | ok u =>
      obtain ⟨outcomes, next, rfl⟩ := ih h₂
      exact ⟨_, .written next, rfl⟩
    | error cause =>
      obtain ⟨_, _, _, rfl, h₃, h₄⟩ := goes_bind.1 h₂
      obtain rfl := goes_log.1 h₃
      obtain ⟨_, _, _, rfl, h₅, h₆⟩ := goes_bind.1 h₄
      obtain ⟨outcomes, next, rfl⟩ := ih h₅
      obtain ⟨rfl, rfl⟩ := goes_pure.1 h₆
      rw [List.append_nil]
      exact ⟨_, .failed cause _ next, rfl⟩

abbrev seriesRuns (records : List MetricRecord) : List (List (Nat × TimeSeries)) :=
  runsOf seriesPerWrite (indexedSeries records)

/-- How many of the records have a series in a run that failed. -/
def failures (records : List MetricRecord) (outcomes : List (Except Failure Unit)) : Nat :=
  (List.range records.length).countP (hitBy (seriesRuns records) outcomes).contains

def told (e : MetricExporter) (records : List MetricRecord) (failed : Nat) : Trace :=
  if records.isEmpty then []
  else [⟨.log (.seriesWritten (seriesCount records) (records.length - failed) e.projectName), ()⟩]

theorem goes_write {records : List MetricRecord} {counts : Nat × Nat}
    (h : (e.write records).Goes t counts) :
    ∃ second outcomes, Writing e (seriesRuns records) second outcomes ∧
      t = second ++ e.told records (failures records outcomes) ∧
      counts = (records.length - failures records outcomes, failures records outcomes) := by
  obtain ⟨second, _, _, rfl, h₁, h₂⟩ := goes_bind.1 h
  obtain ⟨outcomes, writing, rfl⟩ := goes_writeRuns h₁
  refine ⟨second, outcomes, writing, ?_⟩
  cases empty : records.isEmpty with
  | true =>
    simp only [empty] at h₂
    obtain ⟨rfl, rfl⟩ := goes_pure.1 h₂
    exact ⟨by simp [told, empty], rfl⟩
  | false =>
    simp only [empty] at h₂
    obtain ⟨_, _, _, rfl, h₃, h₄⟩ := goes_bind.1 h₂
    obtain rfl := goes_log.1 h₃
    obtain ⟨rfl, rfl⟩ := goes_pure.1 h₄
    exact ⟨by simp only [told, empty, List.append_nil]; rfl, rfl⟩

/-! ### An export -/

structure Exported (e : MetricExporter) (batch : List ResourceMetrics) (t : Trace)
    (fates : List Fate) (outcomes : List (Except Failure Unit)) (result : ExportResult) :
    Prop where
  parts : ∃ first second, t = ⟨.beginExport, true⟩ :: (first ++ (second ++
      (e.told (gathered fates).records (failures (gathered fates).records outcomes) ++
        [⟨.endExport, ()⟩]))) ∧
    Course (e.target.candidates batch) first fates ∧
    Writing e (seriesRuns (gathered fates).records) second outcomes
  result_eq : result = .ofCounts
    ((gathered fates).records.length - failures (gathered fates).records outcomes)
    ((gathered fates).dropped + failures (gathered fates).records outcomes)

variable {batch : List ResourceMetrics} {fates : List Fate} {outcomes : List (Except Failure Unit)}
  {result : ExportResult}

theorem Exported.course (h : Exported e batch t fates outcomes result) :
    ∃ first, Course (e.target.candidates batch) first fates ∧ (∀ x ∈ first, x ∈ t) ∧
      outcomes.length = (seriesRuns (gathered fates).records).length ∧
      t.calls =
        first.calls ++ ((seriesRuns (gathered fates).records).map writeOf).zip outcomes := by
  obtain ⟨first, second, rfl, course, writing⟩ := h.parts
  obtain ⟨length_eq, written⟩ := calls_of_writing writing
  have quiet : ∀ failed, Trace.calls (e.told (gathered fates).records failed) = [] := by
    intro failed
    unfold told
    split <;> rfl
  refine ⟨first, course, fun x hx => List.mem_cons_of_mem _ (List.mem_append_left _ hx), length_eq,
    ?_⟩
  rw [← written]
  show Trace.calls (first ++ (second ++ (_ ++ _))) = _
  simp only [Trace.calls_append, quiet]
  simp [Trace.calls, Exchange.call?]

theorem Exported.calls (h : Exported e batch t fates outcomes result) :
    outcomes.length = (seriesRuns (gathered fates).records).length ∧
    ∃ sent : List (Call × Except Failure Unit),
      sent.map Prod.fst = (fates.filterMap Fate.sent?).map Call.createDescriptor ∧
      t.calls = sent ++ ((seriesRuns (gathered fates).records).map writeOf).zip outcomes := by
  obtain ⟨first, course, -, length_eq, calls_eq⟩ := h.course
  exact ⟨length_eq, first.calls, calls_of_course course, calls_eq⟩

structure Aborted (e : MetricExporter) (batch : List ResourceMetrics) (t : Trace)
    (fates : List Fate) (result : ExportResult) : Prop where
  parts : ∃ before c after first cause,
    e.target.candidates batch = before ++ c :: after ∧ ¬ c.FailsAlone ∧
    t = ⟨.beginExport, true⟩ :: (first ++
      [⟨.log (.internalError "metric export" cause), ()⟩, ⟨.endExport, ()⟩]) ∧
    Course before first fates
  result_eq : result = .failure

/-- An export is refused, or it takes its course to the end or as far as it comes. -/
theorem goes_exportBatch {batch : List ResourceMetrics} {result : ExportResult}
    (h : (e.exportBatch (some batch)).Goes t result) :
    t = [⟨.beginExport, false⟩, ⟨.log (.batchRefused .metrics), ()⟩] ∧ result = .failure ∨
    (∃ fates outcomes, Exported e batch t fates outcomes result) ∨
    ∃ fates, Aborted e batch t fates result := by
  obtain ⟨_, begun, _, rfl, h₁, h₂⟩ := goes_bind.1 h
  obtain rfl := goes_act.1 h₁
  cases begun with
  | false =>
    obtain ⟨_, _, _, rfl, h₃, h₄⟩ := goes_bind.1 h₂
    obtain rfl := goes_log.1 h₃
    obtain ⟨rfl, rfl⟩ := goes_pure.1 h₄
    exact .inl ⟨rfl, rfl⟩
  | true =>
    obtain ⟨_, sent, _, rfl, h₃, h₄⟩ := goes_bind.1 h₂
    obtain ⟨first, _, _, rfl, h₅, h₆⟩ := goes_bind.1 h₃
    rcases goes_gather h₅ with ⟨fates, course, rfl⟩ |
      ⟨before, c, after, fates, cause, split, doom, course, rfl⟩
    · obtain ⟨_, _, _, rfl, h₇, h₈⟩ := goes_bind.1 h₆
      obtain ⟨second, outcomes, writing, rfl, rfl⟩ := goes_write h₇
      obtain ⟨rfl, rfl⟩ := goes_pure.1 h₈
      obtain ⟨_, _, _, rfl, h₉, h₁₀⟩ := goes_bind.1 h₄
      obtain ⟨rfl, rfl⟩ := goes_pure.1 h₉
      obtain ⟨_, _, _, rfl, h₁₁, h₁₂⟩ := goes_bind.1 h₁₀
      obtain rfl := goes_act.1 h₁₁
      obtain ⟨rfl, rfl⟩ := goes_pure.1 h₁₂
      exact .inr (.inl ⟨fates, outcomes, ⟨first, second, by simp, course, writing⟩, rfl⟩)
    · obtain ⟨rfl, rfl⟩ := goes_pure.1 h₆
      obtain ⟨_, _, _, rfl, h₇, h₈⟩ := goes_bind.1 h₄
      obtain rfl := goes_log.1 h₇
      obtain ⟨_, _, _, rfl, h₉, h₁₀⟩ := goes_bind.1 h₈
      obtain ⟨rfl, rfl⟩ := goes_pure.1 h₉
      obtain ⟨_, _, _, rfl, h₁₁, h₁₂⟩ := goes_bind.1 h₁₀
      obtain rfl := goes_act.1 h₁₁
      obtain ⟨rfl, rfl⟩ := goes_pure.1 h₁₂
      exact .inr (.inr ⟨fates, ⟨before, c, after, first, cause, split, doom, by simp, course⟩, rfl⟩)

/-! ### What an export goes through -/

theorem record_of_mem_calls {cs : List Candidate} (h : Course cs t fates) {d : Descriptor}
    {outcome : Except Failure Unit} (hd : (Call.createDescriptor d, outcome) ∈ t.calls) :
    ∃ c ∈ cs, ∃ record, c.record? = some record ∧ record.descriptor = d := by
  have asked : Call.createDescriptor d ∈ t.calls.map Prod.fst :=
    List.mem_map.2 ⟨_, hd, rfl⟩
  rw [calls_of_course h] at asked
  obtain ⟨d', hd', heq⟩ := List.mem_map.1 asked
  cases heq
  exact record_of_sent h hd'

theorem through_of_begun (h : (∃ outcomes, Exported e batch t fates outcomes result) ∨
      Aborted e batch t fates result) :
    ∃ first, Course (goneThrough (e.target.candidates batch)) first fates ∧
      (∀ x ∈ first, x ∈ t) ∧ ∀ d outcome, (Call.createDescriptor d, outcome) ∈ t.calls →
        (Call.createDescriptor d, outcome) ∈ first.calls := by
  rcases h with ⟨outcomes, exported⟩ | aborted
  · obtain ⟨first, course, sub, -, calls_eq⟩ := exported.course
    have all := goneThrough_eq_self (failsAlone_of_course course)
    refine ⟨first, by rwa [all], sub, fun d outcome hd => ?_⟩
    rw [calls_eq] at hd
    refine (List.mem_append.1 hd).resolve_right fun hw => ?_
    obtain ⟨run, -, heq⟩ := List.mem_map.1 (List.of_mem_zip hw).1
    cases heq
  · obtain ⟨before, c, after, first, cause, split, doom, rfl, course⟩ := aborted.parts
    refine ⟨first, by rwa [split, goneThrough_append course doom],
      fun x hx => List.mem_cons_of_mem _ (List.mem_append_left _ hx), fun d outcome hd => ?_⟩
    change _ ∈ Trace.calls (first ++ _) at hd
    rw [Trace.calls_append] at hd
    exact (List.mem_append.1 hd).resolve_right nofun

theorem Aborted.unwritten (h : Aborted e batch t fates result) :
    t.calls.filter (fun x => x.1.isWrite) = [] := by
  obtain ⟨before, c, after, first, cause, -, -, rfl, course⟩ := h.parts
  show (Trace.calls (first ++ _)).filter _ = []
  rw [Trace.calls_append, List.filter_append, unwritten_of_course course]
  rfl

end MetricExporter

end CloudTelemetry
