import CloudTelemetry.Proofs.Export.Alone

/-!
# Exports at a steady service

A `steady` service answers a descriptor by its type alone, and a write by how many writes of the
export came before it. There it is settled beforehand which records get through (`passes`), and an
export writes the same runs with the same result in whatever course it takes
(`Exported.determined`), for instance in the one that it takes alone (`verdicts_fatesOf`).
-/

namespace CloudTelemetry

/-- A service that answers descriptors by their types, and writes by their numbers. -/
def steady (registers : String → Except Failure Unit) (writes : Nat → Except Failure Unit) :
    Service := fun past c =>
  match c with
  | .createDescriptor d => registers d.type
  | .writeSeries _ => writes (past.countP Call.isWrite)
  | _ => .ok ()

namespace MetricExporter
open Procedure Stage

variable {e : MetricExporter} {registers : String → Except Failure Unit}
  {writes : Nat → Except Failure Unit}

/-! ### What is written -/

theorem replies_steady (runs : List (List (Nat × TimeSeries))) (past : List Call) :
    (steady registers writes).replies past (runs.map writeOf) = (runs.map writeOf).zip
      ((List.range' (past.countP Call.isWrite) runs.length).map writes) := by
  induction runs generalizing past with
  | nil => rfl
  | cons run runs ih =>
    have counted : (past ++ [writeOf run]).countP Call.isWrite = past.countP Call.isWrite + 1 := by
      simp [Call.isWrite]
    rw [List.map_cons, Service.replies, ih, counted, List.length_cons, List.range'_succ,
      List.map_cons, List.zip_cons_cons]
    rfl

variable {batch : List ResourceMetrics} {t u : Trace} {fates others : List Fate}
  {outcomes ends : List (Except Failure Unit)} {result other : ExportResult}

theorem Exported.outcomes_eq (h : Exported e batch t fates outcomes result)
    (replies : t.calls = (steady registers writes).replies [] (t.calls.map Prod.fst)) :
    outcomes = (List.range (seriesRuns (gathered fates).records).length).map writes := by
  obtain ⟨length_eq, sent, sent_eq, calls_eq⟩ := h.calls
  have all : ((seriesRuns (gathered fates).records).map writeOf).length = outcomes.length := by
    rw [List.length_map, length_eq]
  have asked : t.calls.map Prod.fst = (fates.filterMap Fate.sent?).map Call.createDescriptor ++
      (seriesRuns (gathered fates).records).map writeOf := by
    rw [calls_eq, List.map_append, sent_eq, List.map_fst_zip (Nat.le_of_eq all)]
  have unwritten : ((fates.filterMap Fate.sent?).map Call.createDescriptor).countP Call.isWrite =
      0 := by
    rw [List.countP_map]
    exact List.countP_eq_zero.2 fun _ _ => by simp [Call.isWrite]
  rw [asked, Service.replies_append, calls_eq, replies_steady, List.nil_append,
    unwritten] at replies
  have same := List.append_inj_right replies
    (by rw [Service.length_replies, ← sent_eq, List.length_map])
  have outcomes_eq := congrArg (List.map Prod.snd) same
  rw [List.map_snd_zip (Nat.le_of_eq all.symm), List.map_snd_zip (by simp)] at outcomes_eq
  rw [outcomes_eq, List.range_eq_range']

theorem Exported.written (h : Exported e batch t fates outcomes result) :
    t.calls.filter (fun x => x.1.isWrite) =
      ((seriesRuns (gathered fates).records).map writeOf).zip outcomes := by
  obtain ⟨first, course, -, -, calls_eq⟩ := h.course
  rw [calls_eq, List.filter_append, unwritten_of_course course, List.nil_append,
    List.filter_eq_self]
  rintro ⟨c, outcome⟩ hx
  obtain ⟨run, -, rfl⟩ := List.mem_map.1 (List.of_mem_zip hx).1
  rfl

theorem gathered_eq_of_verdicts (alike : fates.map Fate.verdict = others.map Fate.verdict) :
    gathered fates = gathered others := by
  induction fates generalizing others with
  | nil =>
    cases others with
    | nil => rfl
    | cons => cases alike
  | cons fate fates ih =>
    cases others with
    | nil => cases alike
    | cons other others =>
      rw [List.map_cons, List.map_cons, List.cons.injEq] at alike
      rw [gathered_cons, gathered_cons, ih alike.2, alike.1]

/-- Two courses in which the candidates fare alike lead to the same writes and the same result. -/
theorem Exported.determined (h : Exported e batch t fates outcomes result)
    (h' : Exported e batch u others ends other)
    (alike : fates.map Fate.verdict = others.map Fate.verdict)
    (replies : t.calls = (steady registers writes).replies [] (t.calls.map Prod.fst))
    (replies' : u.calls = (steady registers writes).replies [] (u.calls.map Prod.fst)) :
    result = other ∧
      t.calls.filter (fun x => x.1.isWrite) = u.calls.filter fun x => x.1.isWrite := by
  have same := gathered_eq_of_verdicts alike
  have outcomes_eq : outcomes = ends := by
    rw [h.outcomes_eq replies, h'.outcomes_eq replies', same]
  constructor
  · rw [h.result_eq, h'.result_eq, same, outcomes_eq]
  · rw [h.written, h'.written, same, outcomes_eq]

/-! ### Who gets through -/

/-- An identity whose descriptor is not refused, where some are registered already. -/
def passes (target : MetricTarget) (strategy : Strategy) (registered : List Identity)
    (registers : String → Except Failure Unit) (id : Identity) : Bool :=
  match strategy with
  | .alwaysSend => (registers (target.typeOf id)).isOk
  | .neverSend => true
  | .sendOnce => registered.contains id || (registers (target.typeOf id)).isOk

def verdictBy (passes : Identity → Bool) : Candidate → Verdict
  | .metric _ (.ok (some record)) => if passes record.identity then .accepted record else .dropped
  | .metric _ (.ok none) => .nothing
  | _ => .dropped

variable {target : MetricTarget} {strategy : Strategy} {registered known : List Identity}

theorem verdict_fateOf {past : List Call} {c : Candidate}
    (belongs : ∀ record, c.record? = some record → target.Belongs record)
    (kept : ∀ x ∈ registered, x ∈ known)
    (sound : ∀ x ∈ known, x ∈ registered ∨ (registers (target.typeOf x)).isOk = true) :
    (fateOf strategy (steady registers writes) past known c).verdict =
      verdictBy (passes target strategy registered registers) c := by
  rcases c with ⟨name, cause | _ | record⟩ | cause
  · rfl
  · rfl
  · have type_eq := (belongs record rfl).type
    simp only [fateOf, verdictBy, steady, type_eq]
    cases strategy with
    | alwaysSend =>
      simp only [Strategy.asks, passes]
      by_cases ok : (registers (target.typeOf record.identity)).isOk = true <;>
        simp [ok, Fate.verdict]
    | neverSend => rfl
    | sendOnce =>
      simp only [Strategy.asks, passes]
      by_cases hk : record.identity ∈ known
      · rcases sound _ hk with h | h <;> simp [hk, h, Fate.verdict]
      · have hr : record.identity ∉ registered := fun h => hk (kept _ h)
        by_cases ok : (registers (target.typeOf record.identity)).isOk = true <;>
          simp [hk, hr, ok, Fate.verdict]
  · rfl

theorem isOk_of_registered {past : List Call} {c : Candidate} {id : Identity}
    (belongs : ∀ record, c.record? = some record → target.Belongs record)
    (h : (fateOf strategy (steady registers writes) past known c).registered? = some id) :
    (registers (target.typeOf id)).isOk = true := by
  rcases c with ⟨name, cause | _ | record⟩ | cause
  · cases h
  · cases h
  · simp only [fateOf] at h
    split at h
    · split at h
      · rename_i ok
        cases h
        rwa [steady, (belongs record rfl).type] at ok
      · cases h
    · cases h
  · cases h

theorem verdicts_fatesOf {cs : List Candidate} {past : List Call}
    (belongs : ∀ c ∈ cs, ∀ record, c.record? = some record → target.Belongs record)
    (kept : ∀ x ∈ registered, x ∈ known)
    (sound : ∀ x ∈ known, x ∈ registered ∨ (registers (target.typeOf x)).isOk = true) :
    (fatesOf strategy (steady registers writes) past known cs).map Fate.verdict =
      cs.map (verdictBy (passes target strategy registered registers)) := by
  induction cs generalizing past known with
  | nil => rfl
  | cons c cs ih =>
    rw [List.forall_mem_cons] at belongs
    rw [fatesOf, List.map_cons, List.map_cons, verdict_fateOf belongs.1 kept sound]
    congr 1
    refine ih belongs.2 (fun x hx => List.mem_append_left _ (kept x hx)) fun x hx => ?_
    rcases List.mem_append.1 hx with hx | hx
    · exact sound x hx
    · rw [Option.mem_toList] at hx
      exact .inr (isOk_of_registered belongs.1 hx)

end MetricExporter

end CloudTelemetry
