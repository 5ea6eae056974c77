import CloudTelemetry.Proofs.Metric.Record
import CloudTelemetry.Proofs.Span.Translation
import Mathlib.Data.Prod.Lex
import Mathlib.Data.Rat.Floor

/-!
# The order of timestamps

Timestamps are ordered by their seconds, and by the nanoseconds after them where the seconds are
the same. An instant has a timestamp exactly if its seconds, rounded down, have 64 bits; nothing of
it is lost, so timestamps are in the order of their instants (`Timestamp.Tells.lt_iff`). What is
sent of a span or of an interval thus runs forward exactly if what was recorded does
(`Timestamp.lossless`).
-/

namespace CloudTelemetry

namespace Timestamp

/-! ### Order -/

def key (t : Timestamp) : Int ×ₗ Int := toLex (t.seconds, t.nanos)

theorem key_injective : Function.Injective key := by
  rintro ⟨seconds, nanos⟩ ⟨seconds', nanos'⟩ same
  obtain ⟨rfl, rfl⟩ := Prod.mk.inj (toLex.injective same)
  rfl

instance : LinearOrder Timestamp := LinearOrder.lift' key key_injective

variable {s t : Timestamp} {a b : Int} {time begun ended : Option Int}

theorem lt_iff : s < t ↔ s.seconds < t.seconds ∨ s.seconds = t.seconds ∧ s.nanos < t.nanos :=
  Prod.Lex.toLex_lt_toLex

theorem Tells.lt_iff (hs : s.Tells (some a)) (ht : t.Tells (some b)) : s < t ↔ a < b := by
  obtain ⟨ha, hs, hs'⟩ := hs
  obtain ⟨hb, ht, ht'⟩ := ht
  have ha := Option.some.inj ha
  have hb := Option.some.inj hb
  rw [Timestamp.lt_iff]
  omega

theorem Tells.le_iff (hs : s.Tells (some a)) (ht : t.Tells (some b)) : s ≤ t ↔ a ≤ b := by
  rw [← not_lt, ht.lt_iff hs, not_lt]

/-! ### Instants -/

theorem floor_seconds (nanos : Int) : ⌊(nanos : ℚ) / 10 ^ 9⌋ = nanos.fdiv 1000000000 := by
  rw [Int.fdiv_eq_ediv_of_nonneg nanos (by decide)]
  have floor := Rat.floor_intCast_div_natCast nanos 1000000000
  norm_num at floor ⊢
  exact floor

theorem tells_of_ofNanos (h : ofNanos? time = .ok t) : t.Tells time := by
  cases time with
  | none => cases h
  | some nanos =>
    change (if fitsInt64 (nanos.fdiv 1000000000) = true then _ else _) = _ at h
    split at h
    · rename_i fits
      have sends := sends_ofNanos ⟨nanos, rfl, fitsInt64_iff.1 fits⟩
      exact sends.kind_of_ok ((if_pos fits).trans h)
    · cases h

theorem ofNanos_eq_error_iff {nanos : Int} :
    ofNanos nanos = .error (.defect .badValue) ↔ ¬ IsInt64 (nanos.fdiv 1000000000) := by
  rw [← fitsInt64_iff]
  change (if fitsInt64 (nanos.fdiv 1000000000) = true then _ else _) = _ ↔ _
  split
  · rename_i fits
    exact iff_of_false nofun (not_not.2 fits)
  · rename_i wide
    exact iff_of_true rfl wide

/-! ### Intervals -/

/-- The timestamps of the start and the end of an interval. They run forward exactly if the interval
does. -/
structure Encloses (s t : Timestamp) (begun ended : Option Int) : Prop where
  start : s.Tells begun
  stop : t.Tells ended
  forward : ∀ a ∈ begun, ∀ b ∈ ended, s ≤ t ↔ a ≤ b

theorem encloses_of_ofNanos (hs : ofNanos? begun = .ok s) (ht : ofNanos? ended = .ok t) :
    s.Encloses t begun ended where
  start := tells_of_ofNanos hs
  stop := tells_of_ofNanos ht
  forward := by
    rintro a rfl b rfl
    exact (tells_of_ofNanos hs).le_iff (tells_of_ofNanos ht)

end Timestamp

theorem Span.encloses_of_sent {target : SpanTarget} {resource : Option Resource} {span : Span}
    {sent : SentSpan} (h : span.sent target resource = .ok sent) :
    sent.start.Encloses sent.stop span.start span.stop := by
  unfold Span.sent at h
  split at h
  · split at h
    · rename_i start
      split at h
      · rename_i stop
        obtain ⟨_, -, h⟩ := bind_eq_ok h
        obtain ⟨startTime, hs, h⟩ := bind_eq_ok h
        obtain ⟨stopTime, ht, h⟩ := bind_eq_ok h
        obtain ⟨_, -, h⟩ := bind_eq_ok h
        obtain ⟨_, -, h⟩ := bind_eq_ok h
        obtain ⟨_, -, h⟩ := bind_eq_ok h
        cases h
        rw [start, stop]
        exact Timestamp.encloses_of_ofNanos hs ht
      · cases h
    · cases h
  · cases h

/-- A series that counts has the interval of its point. -/
def TimeSeries.Encloses (point : DataPoint) (series : TimeSeries) : Prop :=
  series.kind = .cumulative →
    ∃ start ∈ series.point.start, start.Encloses series.point.stop point.start point.time

namespace MetricTarget

variable {target : MetricTarget} {scope : Option Scope} {resource : Resource} {metric : Metric}

theorem encloses_of_series {monitored : MonitoredResource} {descriptor : Descriptor}
    {point : DataPoint} {series : TimeSeries}
    (h : target.series scope monitored descriptor point = .ok series) :
    series.Encloses point := by
  obtain ⟨labels, -, h⟩ := bind_eq_ok h
  obtain ⟨sent, hs, h⟩ := bind_eq_ok h
  cases h
  intro (cumulative : descriptor.kind = .cumulative)
  rw [cumulative] at hs
  obtain ⟨stop, ht, hs⟩ := bind_eq_ok hs
  obtain ⟨_, begun, hs⟩ := bind_eq_ok hs
  obtain ⟨start, hb, begun⟩ := bind_eq_ok begun
  obtain ⟨value, -, hs⟩ := bind_eq_ok hs
  cases begun
  cases hs
  exact ⟨start, rfl, Timestamp.encloses_of_ofNanos hb ht⟩

theorem encloses_of_recordOf {record : MetricRecord}
    (h : target.recordOf scope resource metric = .ok (some record)) :
    List.Forall₂ TimeSeries.Encloses metric.data.points record.series := by
  obtain ⟨kind, -, ⟨-, none⟩ | ⟨_, _, _, monitored, series, -, -, -, each, made⟩⟩ :=
    recordOf_cases h
  · cases none
  · cases made
    exact each.imp fun _ _ => encloses_of_series

end MetricTarget

namespace Timestamp

/-- Timestamps tell instants without loss and in their order, wherever they are sent. -/
structure Lossless : Prop where
  refused : ∀ nanos : Int, ofNanos nanos = .error (.defect .badValue) ↔
    ¬ IsInt64 ⌊(nanos : ℚ) / 10 ^ 9⌋
  kept : ∀ nanos : Int, IsInt64 ⌊(nanos : ℚ) / 10 ^ 9⌋ → ∃ t, ofNanos nanos = .ok t ∧
    0 ≤ t.nanos ∧ t.nanos < 10 ^ 9 ∧ t.seconds * 10 ^ 9 + t.nanos = nanos
  ordered : ∀ a b s t, ofNanos a = .ok s → ofNanos b = .ok t → (a < b ↔ s < t)
  spans : ∀ target resource span sent, Span.sent target resource span = .ok sent →
    sent.start.Encloses sent.stop span.start span.stop
  intervals : ∀ target scope resource metric record,
    MetricTarget.recordOf target scope resource metric = .ok (some record) →
    List.Forall₂ TimeSeries.Encloses metric.data.points record.series

theorem lossless : Lossless where
  refused nanos := by
    rw [floor_seconds]
    exact ofNanos_eq_error_iff
  kept nanos fits := by
    rw [floor_seconds] at fits
    obtain ⟨t, made, told, least, less⟩ := exists_ofNanos ⟨nanos, rfl, fits⟩
    exact ⟨t, made, least, less, (Option.some.inj told).symm⟩
  ordered a b s t hs ht := by
    have first : s.Tells (some a) := tells_of_ofNanos hs
    have second : t.Tells (some b) := tells_of_ofNanos ht
    exact (first.lt_iff second).symm
  spans _ _ _ _ := Span.encloses_of_sent
  intervals _ _ _ _ _ := MetricTarget.encloses_of_recordOf

namespace Sample

/-- A span that ends before it starts, on the other side of the epoch. -/
def backwards : Span :=
  { Span.Sample.checkout with
    attributes := ⟨none, 0⟩, events := [], links := [], start := some 0, stop := some (-1) }

/-- A count that is read before it starts. -/
def rewound : Metric where
  name := "orders"
  description := none
  unit := none
  data := .sum true .cumulative [⟨none, some 0, some (-1), .number (.int 1)⟩]

end Sample

theorem lossless_backwards :
    (∃ sent, Sample.backwards.sent Span.Sample.shop none = .ok sent ∧ ¬ sent.start ≤ sent.stop) ∧
    ∃ record point series, MetricTarget.recordOf ⟨"shop", defaultTypePrefix⟩ none
        ⟨"global", .empty⟩ Sample.rewound = .ok (some record) ∧
      Sample.rewound.data.points = [point] ∧ record.series = [series] ∧
      ∃ start ∈ series.point.start, ¬ start ≤ series.point.stop := by
  have early : ¬ (0 : Int) ≤ -1 := by decide
  constructor
  · obtain ⟨sent, made⟩ : ∃ sent, Sample.backwards.sent Span.Sample.shop none = .ok sent := ⟨_, rfl⟩
    have enclosed := lossless.spans _ _ _ _ made
    exact ⟨sent, made, fun forward => early ((enclosed.forward 0 rfl (-1) rfl).1 forward)⟩
  · obtain ⟨record, series, made, sent, cumulative⟩ : ∃ record series,
        MetricTarget.recordOf ⟨"shop", defaultTypePrefix⟩ none ⟨"global", .empty⟩ Sample.rewound =
          .ok (some record) ∧ record.series = [series] ∧ series.kind = .cumulative :=
      ⟨_, _, rfl, rfl, rfl⟩
    have enclosed := lossless.intervals _ _ _ _ _ made
    rw [sent] at enclosed
    obtain ⟨start, started, encloses⟩ := (List.forall₂_cons.1 enclosed).1 cumulative
    refine ⟨record, _, series, made, rfl, sent, start, started, fun forward => early ?_⟩
    exact (encloses.forward 0 rfl (-1) rfl).1 forward

end Timestamp

end CloudTelemetry
