import CloudTelemetry.Proofs.Metric.Labels

/-!
# Metrics of numbers

What becomes of metrics whose points hold integers and binary64 values. A number fits the type of
its metric, or it has no form there, or it breaks the conversion. The first two are foreseen; a
conversion that breaks is a defect, which is none of the failures that an export keeps to a single
record, and so is a label that cannot be sent. So the failure of a metric concerns the metric alone
exactly if the labels of its resource can be sent, and the first of its points that does not fit
does not break (`concernsRecord_iff`).
-/

namespace CloudTelemetry

/-! ### What comes of a conversion -/

/-- What is converted fits, it is refused as a failure of a record, or it breaks the conversion. -/
inductive Settles {α : Type} (fits breaks : Prop) : Except Failure α → Prop
  | fits {a} (yes : fits) (sound : ¬ breaks) : Settles fits breaks (.ok a)
  | refused {cause} (no : ¬ fits) (sound : ¬ breaks) :
      Settles fits breaks (.error (.unsendable cause))
  | broken {d} (no : ¬ fits) (yes : breaks) : Settles fits breaks (.error (.defect d))

namespace Settles

variable {α β : Type} {fits breaks time : Prop} {x : Except Failure α}

theorem map (h : Settles fits breaks x) (f : α → β) : Settles fits breaks (x.map f) := by
  cases h with
  | fits yes sound => exact .fits yes sound
  | refused no sound => exact .refused no sound
  | broken no yes => exact .broken no yes

theorem bind_pure (h : Settles fits breaks x) {f : α → β} :
    Settles fits breaks (do return f (← x)) := by
  cases h with
  | fits yes sound => exact .fits yes sound
  | refused no sound => exact .refused no sound
  | broken no yes => exact .broken no yes

/-- What may only break comes before what may also be refused. -/
theorem bind {f : α → Except Failure β} (h : Settles time (¬ time) x)
    (next : ∀ a, Settles fits breaks (f a)) :
    Settles (time ∧ fits) (¬ time ∨ breaks) (x >>= f) := by
  cases h with
  | @fits a yes sound =>
    have later := next a
    show Settles _ _ (f a)
    generalize f a = y at later
    cases later with
    | fits yes' sound' => exact .fits ⟨yes, yes'⟩ (by simp [yes, sound'])
    | refused no sound' => exact .refused (fun both => no both.2) (by simp [yes, sound'])
    | broken no yes' => exact .broken (fun both => no both.2) (.inr yes')
  | refused no sound => exact absurd no sound
  | broken no yes => exact .broken (fun both => no both.1) (.inl no)

theorem of_ends {kind : α → Prop}
    (h : Ends (fun cause => ∃ d, cause = .defect d) fits kind x) : Settles fits (¬ fits) x := by
  cases h with
  | holds yes => exact .fits yes (not_not.2 yes)
  | fails no failed =>
    obtain ⟨d, rfl⟩ := failed
    exact .broken no no

theorem exists_ok (h : Settles fits breaks x) (yes : fits) : ∃ a, x = .ok a := by
  cases h with
  | @fits a => exact ⟨a, rfl⟩
  | refused no | broken no => exact absurd yes no

theorem exists_defect (h : Settles fits breaks x) (yes : breaks) :
    ∃ d, x = .error (.defect d) := by
  cases h with
  | @broken d => exact ⟨d, rfl⟩
  | fits _ sound | refused _ sound => exact absurd yes sound

theorem fits_of_ok (h : Settles fits breaks x) (ok : ∃ a, x = .ok a) : fits := by
  cases h with
  | fits yes => exact yes
  | refused | broken =>
    obtain ⟨a, ok⟩ := ok
    cases ok

theorem concernsRecord_iff {cause : Failure}
    (h : Settles fits breaks (.error cause : Except Failure α)) :
    cause.concernsRecord = true ↔ ¬ breaks := by
  cases h with
  | refused no sound => simp [Failure.concernsRecord, sound]
  | broken no yes => simp [Failure.concernsRecord, yes]

end Settles

/-! ### Numbers -/

def IsNumber (v : Value) : Prop := (∃ n, v = .int n) ∨ ∃ x, v = .float x

def whole? : Value → Option Int
  | .int n => some n
  | .float x => x.truncate?
  | _ => none

def NumberFits : ValueType → Value → Prop
  | .int64, v => ∃ n, whole? v = some n ∧ IsInt64 n
  | _, .int n => (Binary64.ofInt n).isFinite = true
  | _, _ => True

/-- The number cannot be converted: it comes to no integer, or to one that has too many digits to be
told of; or it is an integer beyond all binary64 values. -/
def NumberBreaks : ValueType → Value → Prop
  | .int64, v => ∀ n, whole? v = some n → Value.leastUnwritten ≤ n.natAbs
  | _, .int n => (Binary64.ofInt n).isFinite = false
  | _, _ => False

theorem toInt_of_isNumber {v : Value} (number : IsNumber v) :
    (∃ n, whole? v = some n ∧ v.toInt = .ok n) ∨
      whole? v = none ∧ ∃ d, v.toInt = .error (.defect d) := by
  rcases number with ⟨n, rfl⟩ | ⟨x, rfl⟩
  · exact .inl ⟨n, rfl, rfl⟩
  · cases x with
    | nan => exact .inr ⟨rfl, _, rfl⟩
    | infinite negative => exact .inr ⟨rfl, _, rfl⟩
    | finite negative m e => exact .inl ⟨_, rfl, rfl⟩

theorem within_int (low high n : Int) :
    Value.within low high (.int n) = .ok (decide (low ≤ n) && decide (n ≤ high)) := by
  have le : ∀ a b : Int, (Place.ratio a 1).le (.ratio b 1) = decide (a ≤ b) := by
    intro a b
    simp only [Place.le, Place.lt, Place.same]
    grind
  rw [← le, ← le]
  rfl

theorem lt_leastUnwritten {n : Int} (h : IsInt64 n) : n.natAbs < Value.leastUnwritten := by
  have many : 64 ≤ Numeral.digitLimit := by decide
  unfold Value.leastUnwritten
  -- the limit is not to be computed
  generalize Numeral.digitLimit = digits at many
  have wide : 2 ^ 64 ≤ 10 ^ digits :=
    Nat.le_trans (by decide : 2 ^ 64 ≤ 10 ^ 64) (Nat.pow_le_pow_right (by decide) many)
  have short : n.natAbs < 2 ^ 64 := by
    obtain ⟨low, high⟩ := h
    omega
  exact Nat.lt_of_lt_of_le short wide

theorem checkWritable_int (n : Int) : Value.checkWritable (.int n) =
    if n.natAbs < Value.leastUnwritten then .ok () else .error (.defect .badValue) := by
  simp only [Value.checkWritable, Value.isWritable, decide_eq_true_eq, fails]

theorem requireInt64_int (name part : String) (n : Int) : requireInt64 name part (.int n) =
    if fitsInt64 n then .ok ()
    else if n.natAbs < Value.leastUnwritten then
      .error (.unsendable (.wideInteger name part (.int n)))
    else .error (.defect .badValue) := by
  have within : Value.within leastInt64 greatestInt64 (.int n) = .ok (fitsInt64 n) :=
    within_int leastInt64 greatestInt64 n
  unfold requireInt64
  rw [within, checkWritable_int]
  cases fitsInt64 n with
  | true => rfl
  | false =>
    split
    · rfl
    · rfl

theorem settles_requireInt64 (name part : String) (n : Int) :
    Settles (IsInt64 n) (Value.leastUnwritten ≤ n.natAbs) (requireInt64 name part (.int n)) := by
  rw [requireInt64_int]
  by_cases fits : IsInt64 n
  · rw [if_pos (fitsInt64_iff.2 fits)]
    exact .fits fits (Nat.not_le_of_lt (lt_leastUnwritten fits))
  · rw [if_neg fun h => fits (fitsInt64_iff.1 h)]
    split
    · rename_i short
      exact .refused fits (Nat.not_le_of_lt short)
    · rename_i long
      exact .broken fits (Nat.le_of_not_lt long)

theorem settles_int64 (target : MetricTarget) (name : String) {v : Value} (number : IsNumber v) :
    Settles (NumberFits .int64 v) (NumberBreaks .int64 v)
      (target.typedValue name .int64 (.number v)) := by
  unfold MetricTarget.typedValue
  dsimp only
  rcases toInt_of_isNumber number with ⟨n, whole, converted⟩ | ⟨none, d, failed⟩
  · have fits : NumberFits .int64 v ↔ IsInt64 n := by simp [NumberFits, whole]
    have breaks : NumberBreaks .int64 v ↔ Value.leastUnwritten ≤ n.natAbs := by
      simp [NumberBreaks, whole]
    rw [converted, fits, breaks]
    exact (settles_requireInt64 name "value" n).bind_pure
  · rw [failed]
    exact .broken (by simp [NumberFits, none]) (by simp [NumberBreaks, none])

theorem settles_nearest (n : Int) : Settles ((Binary64.ofInt n).isFinite = true)
    ((Binary64.ofInt n).isFinite = false) (Value.nearest n) := by
  unfold Value.nearest
  dsimp only
  cases finite : (Binary64.ofInt n).isFinite with
  | true => exact .fits rfl nofun
  | false => exact .broken nofun rfl

theorem settles_typedValue (target : MetricTarget) (name : String) (valueType : ValueType)
    {v : Value} (number : IsNumber v) :
    Settles (NumberFits valueType v) (NumberBreaks valueType v)
      (target.typedValue name valueType (.number v)) := by
  cases valueType with
  | int64 => exact settles_int64 target name number
  | double | distribution =>
    rcases number with ⟨n, rfl⟩ | ⟨x, rfl⟩
    · exact (settles_nearest n).bind_pure
    · exact .fits trivial not_false

/-! ### Points -/

/-- A time that has a timestamp: one whose seconds are an integer of 64 bits. -/
def HasTimestamp (time : Option Int) : Prop :=
  ∃ nanos, time = some nanos ∧ IsInt64 (nanos.fdiv 1000000000)

theorem settles_ofNanos (time : Option Int) :
    Settles (HasTimestamp time) (¬ HasTimestamp time) (Timestamp.ofNanos? time) := by
  cases time with
  | none =>
    have missing : ¬ HasTimestamp none := by
      rintro ⟨nanos, h, -⟩
      cases h
    exact .broken missing missing
  | some nanos =>
    have iff : HasTimestamp (some nanos) ↔ fitsInt64 (nanos.fdiv 1000000000) = true := by
      rw [fitsInt64_iff]
      exact ⟨fun ⟨_, h, fits⟩ => Option.some.inj h ▸ fits, fun fits => ⟨nanos, rfl, fits⟩⟩
    rw [iff]
    show Settles _ _ (if fitsInt64 (nanos.fdiv 1000000000) = true then _ else _)
    split
    · rename_i fits
      exact .fits fits (fun no => no fits)
    · rename_i wide
      exact .broken wide wide

namespace DataPoint

variable {kind : MetricKind} {valueType : ValueType} {point : DataPoint} {v : Value}

def IsNumeric (point : DataPoint) : Prop := ∃ v, point.measurement = .number v ∧ IsNumber v

def HasTimes (kind : MetricKind) (point : DataPoint) : Prop :=
  HasTimestamp point.time ∧ (kind = .cumulative → HasTimestamp point.start)

def Fits (scope : Option Scope) (kind : MetricKind) (valueType : ValueType) (point : DataPoint) :
    Prop :=
  point.Labelled scope ∧ point.HasTimes kind ∧
    ∀ v, point.measurement = .number v → NumberFits valueType v

/-- The point breaks the conversion of its metric. -/
def Breaks (scope : Option Scope) (kind : MetricKind) (valueType : ValueType)
    (point : DataPoint) : Prop :=
  ¬ point.Labelled scope ∨ ¬ point.HasTimes kind ∨
    ∃ v, point.measurement = .number v ∧ NumberBreaks valueType v

end DataPoint

theorem settles_start (kind : MetricKind) (point : DataPoint) :
    Settles (kind = .cumulative → HasTimestamp point.start)
      (¬ (kind = .cumulative → HasTimestamp point.start))
      (match kind with
        | .cumulative => some <$> Timestamp.ofNanos? point.start
        | .gauge => pure none) := by
  cases kind with
  | gauge => exact .fits nofun (fun no => no nofun)
  | cumulative =>
    have start : (MetricKind.cumulative = .cumulative → HasTimestamp point.start) ↔
      HasTimestamp point.start := by simp
    rw [start]
    exact (settles_ofNanos point.start).map some

theorem settles_seriesPoint (target : MetricTarget) (name : String) (kind : MetricKind)
    (valueType : ValueType) {point : DataPoint} (numeric : point.IsNumeric) :
    Settles
      (point.HasTimes kind ∧ ∀ v, point.measurement = .number v → NumberFits valueType v)
      (¬ point.HasTimes kind ∨ ∃ v, point.measurement = .number v ∧ NumberBreaks valueType v)
      (target.seriesPoint name kind valueType point) := by
  obtain ⟨v, measured, number⟩ := numeric
  have fits : (point.HasTimes kind ∧
      ∀ v, point.measurement = .number v → NumberFits valueType v) ↔ HasTimestamp point.time ∧
      (kind = .cumulative → HasTimestamp point.start) ∧ NumberFits valueType v := by
    simp [DataPoint.HasTimes, measured, and_assoc]
  have breaks : (¬ point.HasTimes kind ∨
      ∃ v, point.measurement = .number v ∧ NumberBreaks valueType v) ↔ ¬ HasTimestamp point.time ∨
      ¬ (kind = .cumulative → HasTimestamp point.start) ∨ NumberBreaks valueType v := by
    simp only [DataPoint.HasTimes, measured, not_and_or, or_assoc]
    simp
  have value := settles_typedValue target name valueType number
  rw [fits, breaks]
  unfold MetricTarget.seriesPoint
  rw [measured]
  refine (settles_ofNanos point.time).bind fun stop => ?_
  cases kind with
  | gauge => exact (settles_start .gauge point).bind fun start => value.bind_pure
  | cumulative => exact (settles_start .cumulative point).bind fun start => value.bind_pure

theorem settles_pointLabels {scope : Option Scope} (named : Named scope) (point : DataPoint) :
    Settles (point.Labelled scope) (¬ point.Labelled scope)
      (pointLabels point.attributes scope) := by
  have ends : Ends (fun cause => ∃ d, cause = .defect d) _ _
      (pointLabels point.attributes scope) :=
    ends_pointLabels named (fun _ => ⟨_, rfl⟩) fun _ => ⟨_, rfl⟩
  exact .of_ends (ends.imp ⟨fun h => ⟨h.1, h.2⟩, fun h => ⟨h.writable, h.whole⟩⟩ fun _ => id)

theorem settles_series (target : MetricTarget) {scope : Option Scope} (named : Named scope)
    (resource : MonitoredResource) (descriptor : Descriptor) {point : DataPoint}
    (numeric : point.IsNumeric) :
    Settles (point.Fits scope descriptor.kind descriptor.valueType)
      (point.Breaks scope descriptor.kind descriptor.valueType)
      (target.series scope resource descriptor point) :=
  (settles_pointLabels named point).bind fun _ =>
    (settles_seriesPoint target descriptor.displayName descriptor.kind descriptor.valueType
      numeric).bind_pure

/-! ### Metrics -/

namespace Metric

def IsNumeric (metric : Metric) : Prop := ∀ point ∈ metric.data.points, point.IsNumeric

/-- The metric has a kind and points. A label of its resource cannot be sent, or the first of its
points that does not fit breaks. -/
def Breaks (scope : Option Scope) (resource : Resource) (metric : Metric) : Prop :=
  ∃ kind first valueType, metric.data.kind metric.name = .ok kind ∧
    metric.data.points.head? = some first ∧ metric.data.valueType first = .ok valueType ∧
    (¬ AllWhole resource.labels.entries ∨
      ∃ before point after, metric.data.points = before ++ point :: after ∧
        (∀ p ∈ before, p.Fits scope kind valueType) ∧ point.Breaks scope kind valueType)

theorem breaks_iff {scope : Option Scope} {resource : Resource} {metric : Metric}
    {kind : MetricKind} {first : DataPoint} {rest : List DataPoint} {valueType : ValueType}
    (kinds : metric.data.kind metric.name = .ok kind) (points : metric.data.points = first :: rest)
    (values : metric.data.valueType first = .ok valueType) :
    metric.Breaks scope resource ↔ ¬ AllWhole resource.labels.entries ∨
      ∃ before point after, first :: rest = before ++ point :: after ∧
        (∀ p ∈ before, p.Fits scope kind valueType) ∧ point.Breaks scope kind valueType := by
  constructor
  · rintro ⟨kind', first', valueType', hk, hf, hv, breaks⟩
    rw [kinds] at hk
    rw [points, List.head?_cons] at hf
    obtain rfl := Option.some.inj hf
    rw [values] at hv
    cases hk
    cases hv
    exact points ▸ breaks
  · intro breaks
    exact ⟨kind, first, valueType, kinds, by rw [points, List.head?_cons], values, points ▸ breaks⟩

end Metric

/-! ### Resources -/

namespace Resource

theorem allText_labelsOf {rules : List LabelRule} {attributes labels : Fields Value}
    (h : labelsOf rules attributes = .ok labels) : AllText labels.entries := by
  obtain ⟨given, each, h⟩ := bind_eq_ok h
  cases h
  have texts : List.Forall₂ (fun found _ => (∀ label, found = some label →
      ∃ t, label.2 = .ofGlyphs t) ∧ True) given rules := by
    refine (mapM_eq_ok_iff.1 each).flip.imp fun found rule made => ⟨?_, trivial⟩
    obtain ⟨value, -, made⟩ := bind_eq_ok made
    rintro label rfl
    obtain ⟨t, -, rfl⟩ := Option.map_eq_some_iff.1 (Except.ok.inj made)
    exact ⟨t, rfl⟩
  intro label hl
  obtain ⟨found, hf, some⟩ := List.mem_filterMap.1 (Fields.mem_of_mem_ofList hl)
  exact ((List.forall₂_and_left _ _).1 texts).1 found hf label some

theorem allText_of_ofRecorded {attributes : Option (Fields Value)} {resource : Resource}
    (h : Resource.ofRecorded attributes = .ok resource) : AllText resource.labels.entries := by
  cases attributes with
  | none => cases h
  | some attributes =>
    unfold ofRecorded ofAttributes at h
    dsimp only at h
    split at h
    · obtain ⟨labels, hl, h⟩ := bind_eq_ok h
      cases h
      exact allText_labelsOf hl
    · cases h

end Resource

/-- A resource as it is attached: none of its labels is lost. -/
structure MonitoredResource.Tells (resource : Resource) (sent : MonitoredResource) : Prop where
  type : sent.type = resource.type
  labels : sent.labels.map asText = resource.labels.entries

theorem ends_monitored {resource : Resource} (texts : AllText resource.labels.entries) :
    Ends (· = .defect .halfCharacter) (AllWhole resource.labels.entries)
      (MonitoredResource.Tells resource) resource.monitored :=
  (ends_textLabels texts).bind_pure fun _ told => ⟨rfl, told⟩

/-! ### Failures -/

theorem unsendable_of_kind {data : MetricData} {name : String} {cause : Failure}
    (h : data.kind name = .error cause) : ∃ reason, cause = .unsendable reason := by
  unfold MetricData.kind at h
  split at h <;> cases h <;> exact ⟨_, rfl⟩

theorem exists_valueType (data : MetricData) {first : DataPoint} (numeric : first.IsNumeric) :
    ∃ valueType, data.valueType first = .ok valueType := by
  obtain ⟨v, measured, ⟨n, rfl⟩ | ⟨x, rfl⟩⟩ := numeric <;>
    cases data <;> simp [MetricData.valueType, measured]

variable {target : MetricTarget} {scope : Option Scope} {attributes : Option (Fields Value)}
  {resource : Resource} {metric : Metric} {cause : Failure}

theorem concernsRecord_of_points (named : Named scope) {monitored : MonitoredResource}
    {descriptor : Descriptor} {points : List DataPoint} (numeric : ∀ p ∈ points, p.IsNumeric)
    (failed : points.mapM (target.series scope monitored descriptor) = .error cause) :
    cause.concernsRecord = true ↔ ¬ ∃ before point after, points = before ++ point :: after ∧
      (∀ p ∈ before, p.Fits scope descriptor.kind descriptor.valueType) ∧
      point.Breaks scope descriptor.kind descriptor.valueType := by
  have settles : ∀ p ∈ points, Settles (p.Fits scope descriptor.kind descriptor.valueType)
      (p.Breaks scope descriptor.kind descriptor.valueType)
      (target.series scope monitored descriptor p) :=
    fun p hp => settles_series target named monitored descriptor (numeric p hp)
  constructor
  · rintro own ⟨before, point, after, rfl, fits, breaks⟩
    have well : ∀ p ∈ before, ∃ sent, target.series scope monitored descriptor p = .ok sent :=
      fun p hp => (settles p (by simp [hp])).exists_ok (fits p hp)
    obtain ⟨d, broken⟩ := (settles point (by simp)).exists_defect breaks
    have ends := mapM_eq_error_iff.2 ⟨before, point, after, rfl, well, broken⟩
    rw [failed] at ends
    cases ends
    cases own
  · intro none
    obtain ⟨before, point, after, rfl, well, first⟩ := mapM_eq_error_iff.1 failed
    have settled := settles point (by simp)
    rw [first] at settled
    refine settled.concernsRecord_iff.2 fun breaks => none ⟨before, point, after, rfl, ?_, breaks⟩
    exact fun p hp => (settles p (by simp [hp])).fits_of_ok (well p hp)

theorem recordOf_of_points {kind : MetricKind} {first : DataPoint} {rest : List DataPoint}
    {valueType : ValueType} {monitored : MonitoredResource}
    (kinds : metric.data.kind metric.name = .ok kind) (points : metric.data.points = first :: rest)
    (values : metric.data.valueType first = .ok valueType)
    (described : resource.monitored = .ok monitored) :
    target.recordOf scope resource metric = (do
      let descriptor := metric.descriptor target.typePrefix kind valueType first
      let series ← (first :: rest).mapM (target.series scope monitored descriptor)
      return some ⟨metric.identity kind, descriptor, series⟩) := by
  unfold MetricTarget.recordOf
  rw [kinds, points, described]
  show (metric.data.valueType first >>= _) = _
  rw [values]
  rfl

theorem recordOf_of_unmonitored {kind : MetricKind} {first : DataPoint} {rest : List DataPoint}
    {valueType : ValueType} {cause : Failure}
    (kinds : metric.data.kind metric.name = .ok kind) (points : metric.data.points = first :: rest)
    (values : metric.data.valueType first = .ok valueType)
    (failed : resource.monitored = .error cause) :
    target.recordOf scope resource metric = .error cause := by
  unfold MetricTarget.recordOf
  rw [kinds, points, failed]
  show (metric.data.valueType first >>= _) = _
  rw [values]
  rfl

theorem bind_pure_eq_error {α β : Type} {x : Except Failure α} {f : α → β}
    (h : (do return f (← x)) = Except.error cause) : x = .error cause := by
  cases x with
  | ok a => cases h
  | error other => exact congrArg _ (Except.error.inj h)

/-- A metric of numbers that fails does so alone, unless a label of its resource or one of its points
breaks. -/
theorem concernsRecord_iff (mapped : Resource.ofRecorded attributes = .ok resource)
    (named : Named scope) (numeric : metric.IsNumeric)
    (failed : target.recordOf scope resource metric = .error cause) :
    cause.concernsRecord = true ↔ ¬ metric.Breaks scope resource := by
  cases kinds : metric.data.kind metric.name with
  | error reason =>
    have whole : ¬ metric.Breaks scope resource := by
      rintro ⟨kind, _, _, hk, -⟩
      rw [kinds] at hk
      cases hk
    unfold MetricTarget.recordOf at failed
    rw [kinds] at failed
    obtain ⟨reason, rfl⟩ := unsendable_of_kind kinds
    cases failed
    exact ⟨fun _ => whole, fun _ => rfl⟩
  | ok kind =>
    cases points : metric.data.points with
    | nil =>
      unfold MetricTarget.recordOf at failed
      rw [kinds, points] at failed
      cases failed
    | cons first rest =>
      have all : ∀ p ∈ first :: rest, p.IsNumeric := fun p hp => numeric p (points ▸ hp)
      obtain ⟨valueType, values⟩ := exists_valueType metric.data (all first (by simp))
      rw [Metric.breaks_iff kinds points values]
      have ends := ends_monitored (Resource.allText_of_ofRecorded mapped)
      cases described : resource.monitored with
      | error other =>
        rw [recordOf_of_unmonitored kinds points values described] at failed
        rw [described] at ends
        cases failed
        cases ends with
        | fails no half =>
          rw [half]
          exact iff_of_false nofun (not_not.2 (.inl no))
      | ok monitored =>
        rw [recordOf_of_points kinds points values described] at failed
        rw [concernsRecord_of_points named all (bind_pure_eq_error failed)]
        have whole := ends.exists_ok_iff.1 ⟨monitored, described⟩
        simp only [not_true_eq_false, false_or, whole]
        rfl

end CloudTelemetry
