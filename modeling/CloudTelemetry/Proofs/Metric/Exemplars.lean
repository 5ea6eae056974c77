import CloudTelemetry.Metric.Distribution
import CloudTelemetry.Proofs.Outcomes
import Mathlib.Data.List.Perm.Subperm
import Mathlib.Tactic.Choose

/-!
# Exemplars and buckets

A histogram is sent with as many exemplars as it has buckets at most, the first ones, wherever they
lie. So two of them may lie in one bucket, and a later one that is alone in its bucket may be left
out. Where no two of the exemplars that were collected lie in one bucket, all are sent
(`exemplars_kept`): there are not more of them than buckets.
-/

namespace CloudTelemetry

theorem Place.lt_asymm {p q : Place} (h : p.lt q = true) : ¬ q.lt p = true := by
  cases p with
  | nowhere | below | above => cases q <;> simp_all [lt]
  | ratio a b =>
    cases q with
    | nowhere | below | above => simp_all [lt]
    | ratio c d =>
      have less : a * d < c * b := of_decide_eq_true h
      intro back
      have more : c * b < a * d := of_decide_eq_true back
      omega

def Binary64.Below (x y : Binary64) : Prop := x.place.lt y.place = true

instance (x y : Binary64) : Decidable (x.Below y) := inferInstanceAs (Decidable (_ = true))

/-! ### Buckets -/

def boundBelow? (bounds : List Binary64) : Nat → Option Binary64
  | 0 => none
  | i + 1 => bounds[i]?

def boundAbove? (bounds : List Binary64) (i : Nat) : Option Binary64 := bounds[i]?

/-- The value is counted in bucket `i`, to which the bound above it belongs. -/
structure InBucket (bounds : List Binary64) (i : Nat) (x : Binary64) : Prop where
  bucket : i ≤ bounds.length
  above : ∀ b ∈ boundBelow? bounds i, b.Below x
  upTo : ∀ b ∈ boundAbove? bounds i, ¬ b.Below x

/-- The value lies strictly between the bounds of bucket `i`. -/
structure Inside (bounds : List Binary64) (i : Nat) (x : Binary64) : Prop where
  bucket : i ≤ bounds.length
  above : ∀ b ∈ boundBelow? bounds i, b.Below x
  below : ∀ b ∈ boundAbove? bounds i, x.Below b

def ShareBucket (bounds : List Binary64) (x y : Binary64) : Prop :=
  ∃ i, InBucket bounds i x ∧ InBucket bounds i y

def ShareInterior (bounds : List Binary64) (x y : Binary64) : Prop :=
  ∃ i, Inside bounds i x ∧ Inside bounds i y

variable {bounds xs : List Binary64} {x y : Binary64} {i : Nat}

theorem Inside.inBucket (h : Inside bounds i x) : InBucket bounds i x :=
  ⟨h.bucket, h.above, fun b hb => Place.lt_asymm (h.below b hb)⟩

theorem ShareInterior.shareBucket (h : ShareInterior bounds x y) : ShareBucket bounds x y := by
  obtain ⟨i, hx, hy⟩ := h
  exact ⟨i, hx.inBucket, hy.inBucket⟩

/-- Values in different buckets are no more than the buckets. -/
theorem length_le_of_apart (placed : ∀ x ∈ xs, ∃ i, InBucket bounds i x)
    (apart : xs.Pairwise fun x y => ¬ ShareBucket bounds x y) : xs.length ≤ bounds.length + 1 := by
  -- each value has a bucket to itself, and there are only so many
  have each : ∀ x, ∃ i, x ∈ xs → InBucket bounds i x := by
    intro x
    by_cases hx : x ∈ xs
    · exact (placed x hx).imp fun _ h _ => h
    · exact ⟨0, fun h => absurd h hx⟩
  choose bucket inBucket using each
  have nodup : (xs.map bucket).Nodup := by
    refine List.pairwise_map.2 (apart.imp_of_mem fun {x y} hx hy no same => no ⟨bucket x, ?_, ?_⟩)
    · exact inBucket x hx
    · exact same ▸ inBucket y hy
  have within : xs.map bucket ⊆ List.range (bounds.length + 1) := by
    intro i hi
    obtain ⟨x, hx, rfl⟩ := List.mem_map.1 hi
    exact List.mem_range.2 (Nat.lt_succ_of_le (inBucket x hx).bucket)
  have fewer := (List.subperm_of_subset nodup within).length_le
  rwa [List.length_map, List.length_range] at fewer

/-- No two exemplars lie in the interior of one bucket. -/
def Distribution.OnePerBucket (sent : Distribution) : Prop :=
  (sent.exemplars.map SentExemplar.value).Pairwise fun x y => ¬ ShareInterior sent.bounds x y

/-! ### What is sent -/

theorem Exemplar.sent_eq_ok_iff {e : Exemplar} {project : String} {s : SentExemplar} :
    e.sent project = .ok s ↔ e.value.toBinary64 = .ok s.value ∧
      Timestamp.ofNanos? e.time = .ok s.time ∧ e.attachments project = .ok s.attachments := by
  constructor
  · intro h
    obtain ⟨attached, ha, h⟩ := bind_eq_ok h
    obtain ⟨value, hv, h⟩ := bind_eq_ok h
    obtain ⟨time, ht, h⟩ := bind_eq_ok h
    cases h
    exact ⟨hv, ht, ha⟩
  · rintro ⟨hv, ht, ha⟩
    unfold sent
    rw [hv, ht, ha]
    rfl

namespace HistogramPoint

variable {point : HistogramPoint} {project name : String} {sent : Distribution}

theorem exemplars_of_distribution (h : point.distribution project name = .ok sent) :
    List.Forall₂ (fun e s => Exemplar.sent project e = .ok s)
      (point.exemplars.take (sent.bounds.length + 1)) sent.exemplars := by
  unfold distribution at h
  by_cases buckets : point.counts.length = point.bounds.length + 1
  · rw [if_neg (not_not.2 buckets)] at h
    obtain ⟨_, -, h⟩ := bind_eq_ok h
    obtain ⟨_, -, h⟩ := bind_eq_ok h
    obtain ⟨mean, -, h⟩ := bind_eq_ok h
    obtain ⟨bounds, hb, h⟩ := bind_eq_ok h
    obtain ⟨exemplars, he, h⟩ := bind_eq_ok h
    obtain ⟨count, -, h⟩ := bind_eq_ok h
    obtain ⟨bucketCounts, -, h⟩ := bind_eq_ok h
    cases h
    have width : point.counts.length = bounds.length + 1 := by
      rw [buckets, (mapM_eq_ok_iff.1 hb).length_eq]
    exact width ▸ mapM_eq_ok_iff.1 he
  · rw [if_pos buckets] at h
    cases h

theorem values_of_sent {es : List Exemplar} {ss : List SentExemplar} {n : Nat}
    (numbers : (es.mapM fun e => e.value.toBinary64) = .ok xs)
    (h : List.Forall₂ (fun e s => Exemplar.sent project e = .ok s) (es.take n) ss) :
    ss.map SentExemplar.value = xs.take n := by
  have sent : ((es.take n).mapM fun e => e.value.toBinary64) = .ok (ss.map SentExemplar.value) := by
    refine mapM_eq_ok_iff.2 (List.forall₂_map_right_iff.2 (h.imp ?_))
    exact fun e s made => (Exemplar.sent_eq_ok_iff.1 made).1
  have collected : ((es.take n).mapM fun e => e.value.toBinary64) = .ok (xs.take n) :=
    mapM_eq_ok_iff.2 (List.forall₂_take n (mapM_eq_ok_iff.1 numbers))
  exact Except.ok.inj (sent.symm.trans collected)

theorem onePerBucket_iff (values : sent.exemplars.map SentExemplar.value =
      xs.take (sent.bounds.length + 1)) :
    sent.OnePerBucket ↔ ∀ j k x y, j < k → k ≤ sent.bounds.length → xs[j]? = some x →
      xs[k]? = some y → ¬ ShareInterior sent.bounds x y := by
  unfold Distribution.OnePerBucket
  rw [values, List.pairwise_iff_getElem]
  constructor
  · intro apart j k x y less kept hx hy
    obtain ⟨hj, rfl⟩ := List.getElem?_eq_some_iff.1 hx
    obtain ⟨hk, rfl⟩ := List.getElem?_eq_some_iff.1 hy
    have := apart j k (by rw [List.length_take]; omega) (by rw [List.length_take]; omega) less
    rwa [List.getElem_take, List.getElem_take] at this
  · intro apart j k hj hk less
    rw [List.length_take] at hj hk
    rw [List.getElem_take, List.getElem_take]
    exact apart j k _ _ less (by omega) (List.getElem?_eq_getElem _) (List.getElem?_eq_getElem _)

/-- A histogram is sent with the first of the exemplars that were collected, as many as there are
buckets. Two of one bucket are sent exactly if two such stand among these; where all that were
collected lie in buckets of their own, none is left out. -/
theorem exemplars_kept (h : point.distribution project name = .ok sent)
    (numbers : (point.exemplars.mapM fun e => e.value.toBinary64) = .ok xs) :
    List.Forall₂ (fun e s => Exemplar.sent project e = .ok s)
      (point.exemplars.take (sent.bounds.length + 1)) sent.exemplars ∧
    (sent.OnePerBucket ↔ ∀ j k x y, j < k → k ≤ sent.bounds.length → xs[j]? = some x →
      xs[k]? = some y → ¬ ShareInterior sent.bounds x y) ∧
    ((∀ x ∈ xs, ∃ i, InBucket sent.bounds i x) →
      (xs.Pairwise fun x y => ¬ ShareBucket sent.bounds x y) →
      sent.exemplars.length = point.exemplars.length ∧ sent.OnePerBucket) := by
  have first := exemplars_of_distribution h
  have values := values_of_sent numbers first
  refine ⟨first, onePerBucket_iff values, fun placed apart => ⟨?_, ?_⟩⟩
  · have fewer := length_le_of_apart placed apart
    rw [← (mapM_eq_ok_iff.1 numbers).length_eq] at fewer
    rw [← first.length_eq, List.take_of_length_le fewer]
  · unfold Distribution.OnePerBucket
    rw [values]
    exact apart.take.imp fun no share => no share.shareBucket

def latency (values : List Binary64) : HistogramPoint where
  bounds := [.float (.ofInt 1)]
  counts := [.int 1, .int 1]
  sum := .float (.ofInt 2)
  count := .int 2
  exemplars := values.map fun x => ⟨.float x, some 0, none, none, none⟩

theorem exemplars_kept_latency : ∃ sent,
    (latency [.ofRatio false 1 2, .ofInt 2]).distribution "project" "latency" = .ok sent ∧
      sent.exemplars.length = 2 ∧ sent.OnePerBucket := by
  have placed : ∀ x ∈ [.ofRatio false 1 2, .ofInt 2], ∃ i, InBucket [.ofInt 1] i x := by
    refine List.forall_mem_cons.2 ⟨⟨0, ?_, ?_, ?_⟩, List.forall_mem_singleton.2 ⟨1, ?_, ?_, ?_⟩⟩
    all_goals decide
  have apart : [.ofRatio false 1 2, .ofInt 2].Pairwise
      fun x y => ¬ ShareBucket [.ofInt 1] x y := by
    refine List.pairwise_pair.2 ?_
    rintro ⟨i, low, high⟩
    cases i with
    | zero => exact high.upTo _ rfl (by decide)
    | succ i =>
      obtain rfl : i = 0 := Nat.le_zero.1 (Nat.le_of_succ_le_succ low.bucket)
      exact absurd (low.above _ rfl) (by decide)
  obtain ⟨sent, h, bounds⟩ : ∃ sent,
      (latency [.ofRatio false 1 2, .ofInt 2]).distribution "project" "latency" = .ok sent ∧
        sent.bounds = [.ofInt 1] := ⟨_, rfl, rfl⟩
  rw [← bounds] at placed apart
  have kept := (exemplars_kept h rfl).2.2 placed apart
  exact ⟨sent, h, kept.1, kept.2⟩

/-- Both of two exemplars below the first bound are sent. -/
theorem not_one_per_bucket : ∃ sent,
    (latency [.ofRatio false 1 4, .ofRatio false 1 2]).distribution "project" "latency" =
        .ok sent ∧
      sent.bounds.Pairwise Binary64.Below ∧ ¬ sent.OnePerBucket := by
  refine ⟨_, rfl, List.pairwise_singleton _ _, fun apart => ?_⟩
  refine List.rel_of_pairwise_cons apart (List.mem_singleton_self _) ⟨0, ?_, ?_⟩
  · exact ⟨by decide, by decide, by decide⟩
  · exact ⟨by decide, by decide, by decide⟩

end HistogramPoint

end CloudTelemetry
