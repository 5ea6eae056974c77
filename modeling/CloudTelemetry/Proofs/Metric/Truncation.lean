import CloudTelemetry.Proofs.Binary64.Rational
import CloudTelemetry.Proofs.Metric.Numbers
import CloudTelemetry.Proofs.Metric.Record

/-!
# Numbers sent as integers

The first point of a metric tells the type of all its values. Where that type is the integers, a
later point that holds a fraction is sent without it: the value of each series is the whole part of
the number of its point (`sent_whole`), so that all numbers are kept exactly if all are whole.
-/

namespace CloudTelemetry

/-! ### The numbers of points -/

def Value.rational? (v : Value) : Option ℚ := v.place?.bind Place.rational?

def DataPoint.rational? (point : DataPoint) : Option ℚ :=
  match point.measurement with
  | .number v => v.rational?
  | .histogram _ => none

def TypedValue.rational? : TypedValue → Option ℚ
  | .int64 n => some n
  | .double x => x.rational?
  | .distribution _ => none

/-- The number at the point is the one of its series. -/
def TimeSeries.Keeps (point : DataPoint) (series : TimeSeries) : Prop :=
  series.point.value.rational? = point.rational?

/-- The series has the number at the point, but for its fraction. -/
def TimeSeries.Truncates (point : DataPoint) (series : TimeSeries) : Prop :=
  ∃ q, point.rational? = some q ∧ series.point.value = .int64 (wholePart q)

def DataPoint.IsWhole (point : DataPoint) : Prop := ∃ n : Int, point.rational? = some n

/-- The point has its times, its labels can be sent, and the whole part of its number has 64
bits. -/
def DataPoint.FitsWhole (scope : Option Scope) (kind : MetricKind) (point : DataPoint) : Prop :=
  point.Labelled scope ∧ point.HasTimes kind ∧ ∃ q, point.rational? = some q ∧ IsInt64 (wholePart q)

theorem TimeSeries.Truncates.keeps_iff {point : DataPoint} {series : TimeSeries}
    (h : series.Truncates point) : series.Keeps point ↔ point.IsWhole := by
  obtain ⟨q, hq, hv⟩ := h
  unfold Keeps DataPoint.IsWhole
  rw [hv, hq]
  constructor
  · intro same
    exact ⟨wholePart q, same.symm⟩
  · rintro ⟨n, same⟩
    rw [Option.some.inj same, wholePart_intCast]
    rfl

/-! ### Conversion -/

theorem whole?_eq {v : Value} (number : IsNumber v) : whole? v = v.rational?.map wholePart := by
  rcases number with ⟨n, rfl⟩ | ⟨x, rfl⟩
  · have whole : wholePart ((n : ℚ) / (1 : Nat)) = n := by
      rw [Nat.cast_one, div_one, wholePart_intCast]
    exact congrArg some whole.symm
  · exact x.truncate?_eq

theorem exists_of_toInt {v : Value} {n : Int} (number : IsNumber v) (h : v.toInt = .ok n) :
    ∃ q, v.rational? = some q ∧ n = wholePart q := by
  rcases toInt_of_isNumber number with ⟨m, whole, converted⟩ | ⟨-, d, failed⟩
  · rw [h] at converted
    obtain rfl := Except.ok.inj converted
    rw [whole?_eq number] at whole
    obtain ⟨q, hq, rfl⟩ := Option.map_eq_some_iff.1 whole
    exact ⟨q, hq, rfl⟩
  · rw [h] at failed
    cases failed

theorem Settles.ends {α : Type} {fits breaks : Prop} {x : Except Failure α}
    (h : Settles fits breaks x) : Ends (fun _ => True) fits (fun _ => True) x := by
  cases h with
  | fits yes => exact .holds yes trivial
  | refused no | broken no => exact .fails no trivial

/-- Of two lists that agree member by member, a stronger agreement rests on the first list. -/
theorem forall₂_iff_forall_mem {α β : Type} {R S : α → β → Prop} {P : α → Prop} {as : List α}
    {bs : List β} (h : List.Forall₂ R as bs) (each : ∀ a b, R a b → (S a b ↔ P a)) :
    List.Forall₂ S as bs ↔ ∀ a ∈ as, P a := by
  induction h with
  | nil => exact iff_of_true .nil nofun
  | cons first _ ih => rw [List.forall₂_cons, List.forall_mem_cons, each _ _ first, ih]

namespace MetricTarget

variable {target : MetricTarget} {scope : Option Scope} {resource : Resource} {metric : Metric}
  {record : MetricRecord}

theorem fits_int64_iff {kind : MetricKind} {point : DataPoint} (numeric : point.IsNumeric) :
    point.Fits scope kind .int64 ↔ point.FitsWhole scope kind := by
  obtain ⟨v, measured, number⟩ := numeric
  unfold DataPoint.Fits DataPoint.FitsWhole DataPoint.rational?
  rw [measured]
  simp only [Measurement.number.injEq, forall_eq', NumberFits, whole?_eq number,
    Option.map_eq_some_iff, exists_exists_and_eq_and]

theorem typedValue_of_seriesPoint {name : String} {kind : MetricKind} {valueType : ValueType}
    {point : DataPoint} {sent : SeriesPoint}
    (h : target.seriesPoint name kind valueType point = .ok sent) :
    target.typedValue name valueType point.measurement = .ok sent.value := by
  obtain ⟨stop, -, h⟩ := bind_eq_ok h
  cases kind with
  | gauge | cumulative =>
    obtain ⟨start, -, h⟩ := bind_eq_ok h
    obtain ⟨value, hv, h⟩ := bind_eq_ok h
    cases h
    exact hv

theorem truncates_of_series {monitored : MonitoredResource} {descriptor : Descriptor}
    {point : DataPoint} {series : TimeSeries} (integer : descriptor.valueType = .int64)
    (numeric : point.IsNumeric)
    (h : target.series scope monitored descriptor point = .ok series) :
    series.Truncates point := by
  obtain ⟨v, measured, number⟩ := numeric
  obtain ⟨labels, -, h⟩ := bind_eq_ok h
  obtain ⟨sent, hs, h⟩ := bind_eq_ok h
  cases h
  have hv := typedValue_of_seriesPoint hs
  rw [measured, integer] at hv
  obtain ⟨n, converted, hv⟩ := bind_eq_ok hv
  obtain ⟨_, -, hv⟩ := bind_eq_ok hv
  obtain ⟨q, hq, rfl⟩ := exists_of_toInt number converted
  refine ⟨q, ?_, (Except.ok.inj hv).symm⟩
  unfold DataPoint.rational?
  rw [measured]
  exact hq

/-- A metric whose first point tells that it is one of integers, where nothing but its points can
keep it from being sent. -/
structure IsIntegral (scope : Option Scope) (resource : Resource) (metric : Metric)
    (kind : MetricKind) : Prop where
  kind : metric.data.kind metric.name = .ok kind
  type : ∃ first rest, metric.data.points = first :: rest ∧
    metric.data.valueType first = .ok .int64
  scope : Named scope
  resource : ∃ monitored, resource.monitored = .ok monitored

theorem IsIntegral.exists_record_iff {kind : MetricKind} (h : IsIntegral scope resource metric kind)
    (numeric : metric.IsNumeric) :
    (∃ record, target.recordOf scope resource metric = .ok (some record)) ↔
      ∀ point ∈ metric.data.points, point.FitsWhole scope kind := by
  obtain ⟨first, rest, points, values⟩ := h.type
  obtain ⟨monitored, described⟩ := h.resource
  have each : ∀ point ∈ first :: rest, Ends (fun _ => True) (point.FitsWhole scope kind)
      (fun _ => True) (target.series scope monitored
        (metric.descriptor target.typePrefix kind .int64 first) point) := by
    intro point hp
    have number := numeric point (points ▸ hp)
    rw [← fits_int64_iff number]
    exact (settles_series target h.scope monitored
      (metric.descriptor target.typePrefix kind .int64 first) number).ends
  have ends : Ends (fun _ => True) (∀ point ∈ first :: rest, point.FitsWhole scope kind)
      (fun outcome => ∃ record, outcome = some record)
      (target.recordOf scope resource metric) := by
    rw [recordOf_of_points h.kind points values described]
    exact (Ends.mapM each).bind_pure fun _ _ => ⟨_, rfl⟩
  rw [points, ← ends.exists_ok_iff]
  constructor
  · rintro ⟨record, sent⟩
    exact ⟨_, sent⟩
  · rintro ⟨outcome, sent⟩
    obtain ⟨record, rfl⟩ := ends.kind_of_ok sent
    exact ⟨record, sent⟩

/-- Numbers that are sent as integers lose their fractions, whatever the others are: each series has
the whole part of the number at its point, so that all are kept exactly if all are whole. Nor does a
fraction keep a metric from being sent: it is sent if its points have their times, their labels can
be sent and the whole parts of their numbers have 64 bits. -/
theorem sent_whole (numeric : metric.IsNumeric) :
    (∀ record, target.recordOf scope resource metric = .ok (some record) →
      record.descriptor.valueType = .int64 →
      List.Forall₂ (fun point series => series.Truncates point)
        metric.data.points record.series ∧
      (List.Forall₂ (fun point series => series.Keeps point) metric.data.points record.series ↔
        ∀ point ∈ metric.data.points, point.IsWhole)) ∧
    ∀ kind, IsIntegral scope resource metric kind →
      ((∃ record, target.recordOf scope resource metric = .ok (some record)) ↔
        ∀ point ∈ metric.data.points, point.FitsWhole scope kind) := by
  refine ⟨fun record sent integer => ?_, fun kind h => h.exists_record_iff numeric⟩
  obtain ⟨kind, -, ⟨-, none⟩ | ⟨_, _, _, monitored, series, -, -, -, each, made⟩⟩ :=
    recordOf_cases sent
  · cases none
  · cases made
    have truncates : List.Forall₂ (fun point series => series.Truncates point)
        metric.data.points series := by
      refine ((List.forall₂_and_left _ _).2 ⟨numeric, each⟩).imp ?_
      rintro point sent ⟨number, made⟩
      exact truncates_of_series integer number made
    exact ⟨truncates, forall₂_iff_forall_mem truncates fun _ _ h => h.keeps_iff⟩

namespace Sample

def gaugeOf (values : List Value) : Metric where
  name := "level"
  description := none
  unit := none
  data := .gauge (values.map fun v => ⟨none, none, some 0, .number v⟩)

theorem isNumeric_gaugeOf {values : List Value} (h : ∀ v ∈ values, IsNumber v) :
    (gaugeOf values).IsNumeric := by
  intro point hp
  obtain ⟨v, hv, rfl⟩ := List.mem_map.1 hp
  exact ⟨v, rfl, h v hv⟩

def anywhere : Resource := ⟨"global", .empty⟩

def workload : MetricTarget := ⟨"project", defaultTypePrefix⟩

def whole : Metric := gaugeOf [.int 1, .float (.ofInt 2)]

def fraction : Metric := gaugeOf [.int 1, .float (.ofRatio false 3 2)]

theorem isNumeric_whole : whole.IsNumeric :=
  isNumeric_gaugeOf (List.forall_mem_cons.2 ⟨.inl ⟨1, rfl⟩,
    List.forall_mem_singleton.2 (.inr ⟨_, rfl⟩)⟩)

theorem isNumeric_fraction : fraction.IsNumeric :=
  isNumeric_gaugeOf (List.forall_mem_cons.2 ⟨.inl ⟨1, rfl⟩,
    List.forall_mem_singleton.2 (.inr ⟨_, rfl⟩)⟩)

theorem rational?_two : (Binary64.ofInt 2).rational? = some ((2 : Int) : ℚ) := by
  rw [show Binary64.ofInt 2 = .finite false (2 ^ 52) (-51) from rfl, Binary64.rational?_finite]
  norm_num

theorem rational?_fraction : (Binary64.ofRatio false 3 2).rational? = some (3 / 2) := by
  rw [show Binary64.ofRatio false 3 2 = .finite false (3 * 2 ^ 51) (-52) from rfl,
    Binary64.rational?_finite]
  norm_num

theorem fitsWhole_fraction : ∀ point ∈ fraction.data.points, point.FitsWhole none .gauge := by
  have labelled (v : Value) : DataPoint.Labelled none ⟨none, none, some 0, .number v⟩ :=
    ⟨nofun, List.forall_mem_cons.2 ⟨⟨"", rfl⟩, List.forall_mem_singleton.2 ⟨"", rfl⟩⟩⟩
  have timed : HasTimestamp (some 0) := ⟨0, rfl, by decide⟩
  have cut : wholePart (3 / 2) = 1 := wholePart_natCast_div 3 2
  refine List.forall_mem_cons.2 ⟨⟨labelled _, ⟨timed, nofun⟩, 1, ?_, ?_⟩,
    List.forall_mem_singleton.2 ⟨labelled _, ⟨timed, nofun⟩, 3 / 2, rational?_fraction, ?_⟩⟩
  · exact congrArg some (div_one (1 : ℚ))
  · rw [← Int.cast_one, wholePart_intCast]
    decide
  · rw [cut]
    decide

end Sample

theorem sent_whole_gauge :
    (∃ record, recordOf Sample.workload none Sample.anywhere Sample.whole = .ok (some record) ∧
      List.Forall₂ (fun point series => series.Keeps point)
        Sample.whole.data.points record.series) ∧
    ∃ record, recordOf Sample.workload none Sample.anywhere Sample.fraction =
      .ok (some record) := by
  have all : ∀ point ∈ Sample.whole.data.points, point.IsWhole := by
    refine List.forall_mem_cons.2 ⟨⟨1, ?_⟩, List.forall_mem_singleton.2 ⟨2, Sample.rational?_two⟩⟩
    exact congrArg some (div_one (1 : ℚ))
  obtain ⟨record, sent, integer⟩ : ∃ record,
      recordOf Sample.workload none Sample.anywhere Sample.whole = .ok (some record) ∧
      record.descriptor.valueType = .int64 := ⟨_, rfl, rfl⟩
  have integral : IsIntegral none Sample.anywhere Sample.fraction .gauge :=
    ⟨rfl, ⟨_, _, rfl, rfl⟩, nofun, ⟨"global", []⟩, rfl⟩
  refine ⟨⟨record, sent, ?_⟩, ?_⟩
  · exact ((sent_whole Sample.isNumeric_whole).1 record sent integer).2.2 all
  · exact ((sent_whole Sample.isNumeric_fraction).2 .gauge integral).2 Sample.fitsWhole_fraction

/-- One and a half is sent as one. -/
theorem not_whole : ∃ record,
    recordOf Sample.workload none Sample.anywhere Sample.fraction = .ok (some record) ∧
    record.descriptor.valueType = .int64 ∧
    ¬ List.Forall₂ (fun point series => series.Keeps point)
      Sample.fraction.data.points record.series := by
  refine ⟨_, rfl, rfl, fun kept => ?_⟩
  obtain ⟨-, kept⟩ := List.forall₂_cons.1 kept
  obtain ⟨kept, -⟩ := List.forall₂_cons.1 kept
  have same : some ((1 : Int) : ℚ) = some (3 / 2) := kept.trans Sample.rational?_fraction
  have same := Option.some.inj same
  norm_num at same

end MetricTarget

end CloudTelemetry
