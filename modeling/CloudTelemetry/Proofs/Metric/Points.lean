import CloudTelemetry.Proofs.Binary64.Range
import CloudTelemetry.Proofs.Metric.Numbers

/-!
# Points in the cloud's form

What a point of a metric becomes: a series of one point, whose labels are the attributes of the
point and of its scope, whose times are those of the point, and whose value is that of the point
(`sends_series`). All numbers are kept as they are; only the mean of a histogram is computed. A
point whose measurement is of the type of its metric is refused only where an integer has more than
64 bits, or where the buckets of a histogram do not fit its bounds. It ends the translation with a
defect only where a label holds half of a character.
-/

namespace CloudTelemetry

/-! ### Outcomes -/

/-- What keeps a part of a metric from being sent: it is not sendable, and refused as a failure of
its record, or one of its texts is not whole. -/
def Hinders (sendable whole : Prop) (cause : Failure) : Prop :=
  (∃ reason, cause = .unsendable reason) ∧ ¬ sendable ∨ cause = .defect .halfCharacter ∧ ¬ whole

abbrev Sends {α : Type} (sendable whole : Prop) (shape : α → Prop) : Except Failure α → Prop :=
  Ends (Hinders sendable whole) (sendable ∧ whole) shape

namespace Sends

variable {α β : Type} {sendable sendable' whole whole' : Prop} {shape : α → Prop}
  {sort : β → Prop} {x : Except Failure α}

theorem weaken (h : Sends sendable whole shape x) (fewer : sendable' → sendable)
    (less : whole' → whole) : Ends (Hinders sendable' whole') (sendable ∧ whole) shape x := by
  refine Ends.weaken h fun _ cause => ?_
  rintro (⟨own, no⟩ | ⟨half, no⟩)
  · exact .inl ⟨own, fun yes => no (fewer yes)⟩
  · exact .inr ⟨half, fun yes => no (less yes)⟩

theorem bind {f : α → Except Failure β} (h : Sends sendable whole shape x)
    (next : ∀ a, shape a → Sends sendable' whole' sort (f a)) :
    Sends (sendable ∧ sendable') (whole ∧ whole') sort (x >>= f) := by
  refine ((h.weaken And.left And.left).bind fun a ha =>
    (next a ha).weaken And.right And.right).imp ?_ fun _ => id
  constructor
  · rintro ⟨⟨first, text⟩, later, texts⟩
    exact ⟨⟨first, later⟩, text, texts⟩
  · rintro ⟨⟨first, later⟩, text, texts⟩
    exact ⟨⟨first, text⟩, later, texts⟩

theorem imp (h : Sends sendable whole shape x) (same : sendable ↔ sendable')
    (texts : whole ↔ whole') {wider : α → Prop} (wide : ∀ a, shape a → wider a) :
    Sends sendable' whole' wider x := by
  rw [← propext same, ← propext texts]
  exact Ends.imp h Iff.rfl wide

theorem holds {a : α} (here : shape a) : Sends True True shape (.ok a) :=
  Ends.holds ⟨trivial, trivial⟩ here

theorem mapM {f : α → Except Failure β} {ready intact : α → Prop} {shape : α → β → Prop}
    {as : List α} (h : ∀ a ∈ as, Sends (ready a) (intact a) (shape a) (f a)) :
    Sends (∀ a ∈ as, ready a) (∀ a ∈ as, intact a) (List.Forall₂ shape as) (as.mapM f) := by
  refine (Ends.mapM fun a ha => (h a ha).weaken (fun all => all a ha) fun all => all a ha).imp ?_
    fun _ => id
  simp only [imp_and, forall_and]

theorem of_own (h : Ends (fun cause => ∃ reason, cause = .unsendable reason) sendable shape x) :
    Sends sendable True shape x := by
  refine (h.weaken fun no cause own => ?_).imp (and_true sendable).to_iff.symm fun _ => id
  exact .inl ⟨own, no⟩

theorem of_half (h : Ends (· = .defect .halfCharacter) whole shape x) :
    Sends True whole shape x := by
  refine (h.weaken fun no cause half => ?_).imp (true_and whole).to_iff.symm fun _ => id
  exact .inr ⟨half, no⟩

end Sends

/-! ### Times -/

/-- The timestamp of a time in nanoseconds, of which nothing is lost. -/
def Timestamp.Tells (timestamp : Timestamp) (time : Option Int) : Prop :=
  time = some (timestamp.seconds * 1000000000 + timestamp.nanos) ∧
    0 ≤ timestamp.nanos ∧ timestamp.nanos < 1000000000

theorem sends_ofNanos {time : Option Int} (h : HasTimestamp time) :
    Sends True True (fun timestamp => timestamp.Tells time) (Timestamp.ofNanos? time) := by
  obtain ⟨nanos, rfl, fits⟩ := h
  have rest := Int.fmod_nonneg_of_pos nanos (show (0 : Int) < 1000000000 by decide)
  have less := Int.fmod_lt_of_pos nanos (show (0 : Int) < 1000000000 by decide)
  show Sends _ _ _ (if fitsInt64 (nanos.fdiv 1000000000) = true then _ else _)
  rw [if_pos (fitsInt64_iff.2 fits)]
  exact .holds ⟨congrArg some (Timestamp.nanos_split nanos).symm, rest, less⟩

/-! ### Integers -/

/-- An integer that is short enough to be told of. -/
def IsInteger (v : Value) : Prop := ∃ n, v = .int n ∧ n.natAbs < Value.leastUnwritten

def IsFloat (v : Value) : Prop := ∃ x, v = .float x

/-- No integer of more than 64 bits. -/
def FitsInt64 (v : Value) : Prop := ∀ n, v = .int n → IsInt64 n

theorem fitsInt64_int {n : Int} : FitsInt64 (.int n) ↔ IsInt64 n := by
  refine ⟨fun h => h n rfl, fun h m same => ?_⟩
  cases same
  exact h

theorem sends_requireInt64 (name part : String) {v : Value} (integer : IsInteger v) :
    Sends (FitsInt64 v) True (fun _ => FitsInt64 v) (requireInt64 name part v) := by
  obtain ⟨n, rfl, short⟩ := integer
  rw [requireInt64_int, fitsInt64_int, ← fitsInt64_iff, if_pos short]
  exact .of_own (.check id ⟨_, rfl⟩)

theorem IsInt64.isFinite {n : Int} (h : IsInt64 n) : (Binary64.ofInt n).isFinite = true := by
  obtain ⟨least, greatest⟩ := h
  exact Binary64.isFinite_ofInt (by omega)

/-! ### Histograms -/

/-- An example that holds a number and has a time. Its attributes have written forms. -/
structure Exemplar.WellFormed (e : Exemplar) : Prop where
  value : IsFloat e.value
  time : HasTimestamp e.time
  writable : AllWritable (e.filtered.getD .empty)

namespace HistogramPoint

structure WellFormed (point : HistogramPoint) : Prop where
  bounds : ∀ bound ∈ point.bounds, IsFloat bound
  counts : ∀ count ∈ point.counts, IsInteger count
  sum : IsFloat point.sum
  count : IsInteger point.count
  exemplars : ∀ e ∈ point.exemplars, e.WellFormed

/-- There is one more bucket than there are bounds, and all counts have 64 bits. -/
structure Sendable (point : HistogramPoint) : Prop where
  buckets : point.counts.length = point.bounds.length + 1
  count : FitsInt64 point.count
  counts : ∀ count ∈ point.counts, FitsInt64 count

/-- The labels of the exemplars that are sent can be sent. -/
def Whole (point : HistogramPoint) : Prop :=
  ∀ e ∈ point.exemplars.take point.counts.length, AllWhole e.ownLabels

end HistogramPoint

structure SentExemplar.Tells (project : String) (e : Exemplar) (sent : SentExemplar) : Prop where
  value : e.value = .float sent.value
  time : sent.time.Tells e.time
  attachments : e.Attaches project sent.attachments

/-- A histogram as it is sent: with one example for each bucket at most, the first ones. -/
structure Distribution.Tells (project : String) (point : HistogramPoint) (sent : Distribution) :
    Prop where
  count : point.count = .int sent.count
  mean : if sent.count = 0 then sent.mean = .zero
    else ∃ sum, point.sum = .float sum ∧ sent.mean = sum.div (.ofInt sent.count)
  bounds : point.bounds = sent.bounds.map .float
  bucketCounts : point.counts = sent.bucketCounts.map .int
  exemplars : List.Forall₂ (SentExemplar.Tells project)
    (point.exemplars.take sent.bucketCounts.length) sent.exemplars

theorem sends_exemplar (project : String) {e : Exemplar} (h : e.WellFormed) :
    Sends True (AllWhole e.ownLabels) (SentExemplar.Tells project e) (e.sent project) := by
  obtain ⟨⟨x, hx⟩, time, writable⟩ := h
  have attachments : Ends (· = .defect .halfCharacter) _ _ (e.attachments project) :=
    Exemplar.ends_attachments project (fun no => (no writable).elim) fun _ => rfl
  have labelled : e.Labelled ↔ AllWhole e.ownLabels :=
    ⟨Exemplar.Labelled.whole, fun whole => ⟨writable, whole⟩⟩
  unfold Exemplar.sent
  rw [hx]
  refine ((Sends.of_half (attachments.imp labelled fun _ => id)).bind fun attached ha => ?_).imp
    (and_true True).to_iff (and_true _).to_iff fun _ => id
  exact (sends_ofNanos time).bind_pure fun sent told => ⟨hx, told, ha⟩

theorem mean_eq {point : HistogramPoint} {sum : Binary64} {n : Int} (hs : point.sum = .float sum)
    (hn : point.count = .int n) (fits : IsInt64 n) :
    point.mean = .ok (if n = 0 then .zero else sum.div (.ofInt n)) := by
  unfold HistogramPoint.mean
  rw [hs, hn]
  by_cases empty : n = 0
  · rw [empty]
    rfl
  · have present : (Value.int n).isPresent = true := by simpa [Value.isPresent] using empty
    rw [if_pos present, if_neg empty]
    unfold Value.quotient Value.nearest
    dsimp only [Value.counted]
    rw [if_pos fits.isFinite]
    rfl

/-- Once the counts of a histogram have been looked at, nothing is refused. -/
theorem sends_counted (project : String) {point : HistogramPoint} (h : point.WellFormed)
    (fits : FitsInt64 point.count) :
    Sends True point.Whole (Distribution.Tells project point) (do
      let mean ← point.mean
      let bounds ← point.bounds.mapM Value.asDouble
      let exemplars ← (point.exemplars.take point.counts.length).mapM (Exemplar.sent project)
      let count ← point.count.asInteger
      let bucketCounts ← point.counts.mapM Value.asInteger
      return ⟨count, mean, bounds, bucketCounts, exemplars⟩) := by
  obtain ⟨bounds, hb⟩ := exists_eq_map h.bounds
  obtain ⟨counts, hc⟩ := exists_eq_map fun v hv => (h.counts v hv).imp fun _ => And.left
  obtain ⟨sum, hs⟩ := h.sum
  obtain ⟨n, hn, -⟩ := h.count
  have exemplars : ∀ e ∈ point.exemplars.take point.counts.length,
      Sends True (AllWhole e.ownLabels) (SentExemplar.Tells project e) (e.sent project) :=
    fun e he => sends_exemplar project (h.exemplars e (List.mem_of_mem_take he))
  rw [hn, fitsInt64_int] at fits
  unfold HistogramPoint.Whole
  rw [mean_eq hs hn fits]
  rw [hc, List.length_map] at exemplars ⊢
  rw [hb, hn, mapM_map_of_reads (f := Value.asDouble) fun _ => rfl,
    mapM_map_of_reads (f := Value.asInteger) fun _ => rfl]
  refine Sends.imp ((Sends.mapM exemplars).bind_pure fun sent told => ?_) (by simp) Iff.rfl
    fun _ => id
  refine ⟨hn, ?_, hb, hc, told⟩
  split
  · rfl
  · exact ⟨sum, hs, rfl⟩

theorem sends_distribution (project name : String) {point : HistogramPoint}
    (h : point.WellFormed) :
    Sends point.Sendable point.Whole (Distribution.Tells project point)
      (point.distribution project name) := by
  have each : ∀ v ∈ point.counts, Ends (Hinders (∀ v ∈ point.counts, FitsInt64 v) True)
      (FitsInt64 v) (fun _ => True) (requireInt64 name "bucket count" v) := fun v hv =>
    ((sends_requireInt64 name _ (h.counts v hv)).weaken (fun all => all v hv) id).imp
      (and_true _).to_iff fun _ _ => trivial
  have counts : Sends (∀ v ∈ point.counts, FitsInt64 v) True (fun _ => True)
      (point.counts.forM (requireInt64 name "bucket count")) :=
    (Ends.forM each).imp (and_true _).to_iff.symm fun _ => id
  unfold HistogramPoint.distribution
  by_cases buckets : point.counts.length = point.bounds.length + 1
  · rw [if_neg (not_not.2 buckets)]
    refine ((sends_requireInt64 name "count" h.count).bind fun _ fits =>
      counts.bind fun _ _ => sends_counted project h fits).imp ?_ (by simp) fun _ => id
    constructor
    · rintro ⟨count, counts, -⟩
      exact ⟨buckets, count, counts⟩
    · rintro ⟨-, count, counts⟩
      exact ⟨count, counts, trivial⟩
  · rw [if_pos buckets]
    have unsendable : ¬ point.Sendable := fun sendable => buckets sendable.buckets
    exact .fails (fun h => unsendable h.1) (.inl ⟨⟨_, rfl⟩, unsendable⟩)

/-! ### Points -/

namespace DataPoint

def IsOf (point : DataPoint) : ValueType → Prop
  | .int64 => ∃ v, point.measurement = .number v ∧ IsInteger v
  | .double => ∃ v, point.measurement = .number v ∧ IsFloat v
  | .distribution => ∃ histogram, point.measurement = .histogram histogram ∧ histogram.WellFormed

def Sendable (point : DataPoint) : Prop :=
  match point.measurement with
  | .number v => FitsInt64 v
  | .histogram histogram => histogram.Sendable

/-- The labels that are sent of a point can be sent. -/
structure Whole (scope : Option Scope) (point : DataPoint) : Prop where
  labels : AllWhole (sentLabels point.attributes scope)
  exemplars : ∀ histogram, point.measurement = .histogram histogram → histogram.Whole

structure Timed (point : DataPoint) : Prop where
  time : HasTimestamp point.time
  start : HasTimestamp point.start

end DataPoint

namespace TypedValue

def type : TypedValue → ValueType
  | .int64 _ => .int64
  | .double _ => .double
  | .distribution _ => .distribution

/-- A measurement as it is sent. -/
def Tells (project : String) : Measurement → TypedValue → Prop
  | .number v, .int64 n => v = .int n
  | .number v, .double x => v = .float x
  | .histogram point, .distribution sent => sent.Tells project point
  | _, _ => False

end TypedValue

/-- A point as it is sent: what counts has a start. -/
structure SeriesPoint.Tells (project : String) (kind : MetricKind) (point : DataPoint)
    (sent : SeriesPoint) : Prop where
  stop : sent.stop.Tells point.time
  start : match kind with
    | .gauge => sent.start = none
    | .cumulative => ∃ start, sent.start = some start ∧ start.Tells point.start
  value : sent.value.Tells project point.measurement

/-- A point as a series under a descriptor. -/
structure TimeSeries.Tells (target : MetricTarget) (scope : Option Scope)
    (resource : MonitoredResource) (descriptor : Descriptor) (point : DataPoint)
    (sent : TimeSeries) : Prop where
  type : sent.type = descriptor.type
  labels : sent.labels.map asText = sentLabels point.attributes scope
  resource : sent.resource = resource
  kind : sent.kind = descriptor.kind
  point : sent.point.Tells target.project descriptor.kind point
  valueType : sent.point.value.type = descriptor.valueType

section
variable (target : MetricTarget) (name : String) {kind : MetricKind} {valueType : ValueType}
  {point : DataPoint}

theorem sends_typedValue (h : point.IsOf valueType) :
    Sends point.Sendable (∀ histogram, point.measurement = .histogram histogram → histogram.Whole)
      (fun sent => sent.Tells target.project point.measurement ∧ sent.type = valueType)
      (target.typedValue name valueType point.measurement) := by
  have number {v : Value} : (∀ histogram, Measurement.number v = .histogram histogram →
      histogram.Whole) ↔ True := iff_true_intro nofun
  unfold DataPoint.Sendable
  cases valueType with
  | int64 =>
    obtain ⟨v, hm, integer⟩ := h
    obtain ⟨n, rfl, -⟩ := id integer
    rw [hm]
    exact Sends.imp ((sends_requireInt64 name "value" integer).bind_pure fun _ _ => ⟨rfl, rfl⟩)
      Iff.rfl number.symm fun _ => id
  | double =>
    obtain ⟨v, hm, x, rfl⟩ := h
    rw [hm]
    exact Ends.holds ⟨nofun, nofun⟩ ⟨rfl, rfl⟩
  | distribution =>
    obtain ⟨histogram, hm, well⟩ := h
    rw [hm]
    exact Sends.imp ((sends_distribution target.project name well).bind_pure fun _ told =>
      ⟨told, rfl⟩) Iff.rfl (by simp) fun _ => id

theorem sends_seriesPoint (h : point.IsOf valueType) (timed : point.Timed) :
    Sends point.Sendable (∀ histogram, point.measurement = .histogram histogram → histogram.Whole)
      (fun sent => sent.Tells target.project kind point ∧ sent.value.type = valueType)
      (target.seriesPoint name kind valueType point) := by
  have value := sends_typedValue target name h
  have both {p : Prop} : (True ∧ p) ↔ p := by rw [true_and]
  unfold MetricTarget.seriesPoint
  cases kind with
  | gauge =>
    refine ((sends_ofNanos timed.time).bind fun stop hs => ?_).imp both both fun _ => id
    exact value.bind_pure fun sent hv => ⟨⟨hs, rfl, hv.1⟩, hv.2⟩
  | cumulative =>
    have start : Sends True True
        (fun start => ∃ t : Timestamp, start = some t ∧ t.Tells point.start)
        (some <$> Timestamp.ofNanos? point.start) :=
      (sends_ofNanos timed.start).map fun t ht => ⟨t, rfl, ht⟩
    refine ((sends_ofNanos timed.time).bind fun stop hs =>
      (start.bind fun start ht => ?_).imp both both fun _ => id).imp both both fun _ => id
    exact value.bind_pure fun sent hv => ⟨⟨hs, ht, hv.1⟩, hv.2⟩

/-- Every point of the type of its metric is sent as one series, or refused, or a label of it cannot
be sent. -/
theorem sends_series {scope : Option Scope} (named : Named scope) (resource : MonitoredResource)
    {descriptor : Descriptor} (h : point.IsOf descriptor.valueType) (timed : point.Timed)
    (writable : AllWritable (point.attributes.getD .empty)) :
    Sends point.Sendable (point.Whole scope)
      (TimeSeries.Tells target scope resource descriptor point)
      (target.series scope resource descriptor point) := by
  have labels : Ends (· = .defect .halfCharacter) _ _ (pointLabels point.attributes scope) :=
    ends_pointLabels named (fun no => (no writable).elim) fun _ => rfl
  unfold MetricTarget.series
  refine ((Sends.of_half labels).bind fun sent told =>
    (sends_seriesPoint target descriptor.displayName h timed).bind_pure fun made tells =>
      ⟨rfl, told, rfl, rfl, tells.1, tells.2⟩).imp (true_and _).to_iff ?_ fun _ => id
  constructor
  · rintro ⟨⟨-, labels⟩, exemplars⟩
    exact ⟨labels, exemplars⟩
  · rintro ⟨labels, exemplars⟩
    exact ⟨⟨writable, labels⟩, exemplars⟩

end

end CloudTelemetry
