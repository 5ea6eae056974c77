import CloudTelemetry.Export.Rehearsal
import CloudTelemetry.Proofs.Export.Registering

/-!
# Exports that run alone

An export against a service that may answer each call as it likes (`Stage.served`), with a cache
that nobody else uses. It runs to its end (`run_exportBatch`), in the course whose fates `fatesOf`
tells from the service and the registered identities alone.
-/

namespace CloudTelemetry

/-! ### What becomes of the candidates -/

def Strategy.asks (strategy : Strategy) (registered : List Identity) (id : Identity) : Bool :=
  match strategy with
  | .alwaysSend => true
  | .neverSend => false
  | .sendOnce => !registered.contains id

/-- What becomes of a candidate, where `past` calls were made and some identities are registered. -/
def fateOf (strategy : Strategy) (service : Service) (past : List Call)
    (registered : List Identity) : Candidate → Fate
  | .metric _ (.ok (some record)) =>
    if strategy.asks registered record.identity then
      if (service past (.createDescriptor record.descriptor)).isOk then .kept record true
      else .refused record
    else .kept record false
  | .metric _ (.ok none) => .nothing
  | _ => .untranslated

def Fate.registered? : Fate → Option Identity
  | .kept record true => some record.identity
  | _ => none

def fatesOf (strategy : Strategy) (service : Service) :
    List Call → List Identity → List Candidate → List Fate
  | _, _, [] => []
  | past, registered, c :: rest =>
    let fate := fateOf strategy service past registered c
    fate :: fatesOf strategy service (past ++ (fate.sent?.map Call.createDescriptor).toList)
      (registered ++ fate.registered?.toList) rest

namespace Stage
open Procedure

variable {Batch : Type} {service : Service} {s u : Stage Batch} {t : Trace}

abbrev made (s : Stage Batch) : List Call := s.calls.map CallRecord.call

def told (t : Trace) : List LogEntry :=
  t.filterMap fun x => match x with
    | ⟨.log entry, _⟩ => some entry
    | _ => none

theorem kept_of_quiet (hc : u.calls = s.calls) (hl : u.log = s.log) :
    u.made = s.made ++ [] ∧ [] = service.replies s.made [] ∧ u.log = s.log ++ [] := by
  simp [made, hc, hl, Service.replies]

theorem handle_kept {a : Action} {reply : a.Reply}
    (h : handle (served service) a s = some (reply, u)) :
    u.made = s.made ++ (Trace.calls [⟨a, reply⟩]).map Prod.fst ∧
      Trace.calls [⟨a, reply⟩] = service.replies s.made ((Trace.calls [⟨a, reply⟩]).map Prod.fst) ∧
      u.log = s.log ++ told [⟨a, reply⟩] := by
  cases a with
  | call c =>
    simp only [handle, served, Option.some.injEq, Prod.mk.injEq] at h
    obtain ⟨rfl, rfl⟩ := h
    refine ⟨by simp [made, Trace.calls, Exchange.call?], rfl, ?_⟩
    cases c <;> simp [told, counting]
  | log entry =>
    cases h
    exact ⟨by simp [made, Trace.calls, Exchange.call?], rfl, rfl⟩
  | claim id =>
    simp only [handle] at h
    split at h <;> cases h <;> exact kept_of_quiet rfl rfl
  | waitIdle | shutDown =>
    simp only [handle] at h
    split at h
    · cases h
      exact kept_of_quiet rfl rfl
    · obtain ⟨_, -, h⟩ := Option.map_eq_some_iff.1 h
      cases h
      exact kept_of_quiet rfl rfl
  | beginExport | endExport | isShutdown | state | settle =>
    cases h
    exact kept_of_quiet rfl rfl

theorem told_append (t t' : Trace) : told (t ++ t') = told t ++ told t' :=
  List.filterMap_append

theorem answers_kept (h : Answers (handle (served service)) s t u) :
    u.made = s.made ++ t.calls.map Prod.fst ∧
      t.calls = service.replies s.made (t.calls.map Prod.fst) ∧ u.log = s.log ++ told t := by
  induction t generalizing s with
  | nil =>
    obtain rfl : s = u := h
    simp [Trace.calls, told, Service.replies]
  | cons x t ih =>
    obtain ⟨m, hx, h⟩ := h
    obtain ⟨h₁, h₂, h₃⟩ := handle_kept hx
    obtain ⟨h₄, h₅, h₆⟩ := ih h
    rw [show x :: t = [x] ++ t from rfl, Trace.calls_append, told_append, List.map_append,
      Service.replies_append, ← h₁, ← h₂, ← h₅]
    exact ⟨by rw [h₄, h₁, List.append_assoc], rfl, by rw [h₆, h₃, List.append_assoc]⟩

/-! ### The cache of an export that is alone -/

/-- The cache remembers the registered identities, and under `sendOnce` nothing is claimed but what
is being registered. -/
structure Stands (strategy : Strategy) (g : Registering) (registered : List Identity)
    (s : Stage Batch) : Prop where
  strategy_eq : s.cache.strategy = strategy
  registered : strategy = .sendOnce → ∀ x, x ∈ s.cache.registered ↔ x ∈ registered
  pending : strategy = .sendOnce → ∀ x, x ∈ s.cache.pending ↔ g.id? = some x

variable {strategy : Strategy} {g : Registering} {registered : List Identity}

theorem Stands.of_cache {later : Registering} (st : Stands strategy g registered s)
    (hc : u.cache = s.cache) (hg : later.id? = g.id?) : Stands strategy later registered u where
  strategy_eq := by rw [hc, st.strategy_eq]
  registered := by rw [hc]; exact st.registered
  pending := by rw [hc, hg]; exact st.pending

theorem counting_cache (c : Call) : (s.counting c).cache = s.cache := by
  cases c <;> rfl

theorem Stands.claim (service : Service) (st : Stands strategy .no registered s)
    (id : Identity) :
    ∃ u, handle (served service) (.claim id) s = some (strategy.asks registered id, u) ∧
      Stands strategy (Registering.after .no (.claim id) (strategy.asks registered id))
        registered u := by
  have hs := st.strategy_eq
  cases strategy with
  | alwaysSend =>
    refine ⟨_, by simp only [handle, DescriptorCache.claim, hs]; rfl, hs, ?_, ?_⟩ <;>
      intro once <;> cases once
  | neverSend =>
    refine ⟨_, by simp only [handle, DescriptorCache.claim, hs]; rfl, hs, ?_, ?_⟩ <;>
      intro once <;> cases once
  | sendOnce =>
    have idle : id ∉ s.cache.pending := fun h => by cases (st.pending rfl id).1 h
    by_cases h : id ∈ registered
    · have asks : Strategy.asks .sendOnce registered id = false := by simp [Strategy.asks, h]
      have known := (st.registered rfl id).2 h
      refine ⟨s, ?_, ?_⟩
      · simp only [handle, DescriptorCache.claim_sendOnce hs, if_neg idle, if_pos known, asks]
      · rw [asks]; exact st
    · have asks : Strategy.asks .sendOnce registered id = true := by simp [Strategy.asks, h]
      have unknown : id ∉ s.cache.registered := fun hc => h ((st.registered rfl id).1 hc)
      refine ⟨{ s with cache := { s.cache with pending := id :: s.cache.pending } }, ?_, ?_⟩
      · simp only [handle, DescriptorCache.claim_sendOnce hs, if_neg idle, if_neg unknown, asks]
      · rw [asks]
        refine ⟨hs, st.registered, fun _ x => ?_⟩
        rw [List.mem_cons, st.pending rfl]
        simp [Registering.after, Registering.id?, eq_comm]

theorem Stands.settle {id : Identity} {succeeded : Bool}
    (st : Stands strategy (.answered id succeeded) registered s) :
    Stands strategy .no (registered ++ if succeeded then [id] else [])
      { s with cache := s.cache.settle id succeeded } where
  strategy_eq := (DescriptorCache.strategy_settle ..).trans st.strategy_eq
  registered := by
    rintro rfl x
    rw [DescriptorCache.mem_registered_settle st.strategy_eq, st.registered rfl]
    cases succeeded <;> simp
  pending := by
    rintro rfl x
    rw [DescriptorCache.mem_pending_settle st.strategy_eq, st.pending rfl]
    simp only [Registering.id?, Option.some.injEq]
    constructor
    · rintro ⟨rfl, h⟩
      exact absurd rfl h
    · intro h
      cases h

theorem Stands.handle (service : Service) {target : MetricTarget} {a : Action}
    (st : Stands strategy g registered s) (allowed : Registering.Allows target g a) :
    ∃ reply u known,
      Stage.handle (served service) a s = some (reply, u) ∧
      Stands strategy (Registering.after g a reply) known u := by
  rcases allowed.cases with ⟨entry, rfl⟩ | ⟨rfl, rfl | rfl | ⟨id, rfl⟩ | ⟨series, rfl⟩⟩ |
    ⟨d, rfl, rfl, -⟩ | ⟨id, succeeded, rfl, rfl⟩
  · exact ⟨_, _, _, rfl, st.of_cache rfl (Registering.id?_after allowed nofun nofun _)⟩
  · exact ⟨_, _, _, rfl, st.of_cache rfl rfl⟩
  · exact ⟨_, _, _, rfl, st.of_cache rfl rfl⟩
  · obtain ⟨u, hu, hs⟩ := st.claim service id
    exact ⟨_, u, _, hu, hs⟩
  · exact ⟨_, _, _, rfl, st.of_cache (counting_cache _) rfl⟩
  · exact ⟨_, _, _, rfl, st.of_cache (counting_cache _) rfl⟩
  · exact ⟨_, _, _, rfl, st.settle⟩

/-! ### The course of an export that is alone -/

open MetricExporter

theorem handle_call {c : Call} {outcome : Except Failure Unit}
    (h : Stage.handle (served service) (.call c) s = some (outcome, u)) :
    outcome = service s.made c ∧ u.cache = s.cache := by
  simp only [Stage.handle, served, Option.some.injEq, Prod.mk.injEq] at h
  obtain ⟨rfl, rfl⟩ := h
  exact ⟨rfl, counting_cache c⟩

theorem Stands.of_claim {id : Identity} {claimed : Bool} (st : Stands strategy .no registered s)
    (h : Stage.handle (served service) (.claim id) s = some (claimed, u)) :
    claimed = strategy.asks registered id ∧
      Stands strategy (if claimed then .claimed id else .no) registered u := by
  obtain ⟨v, hv, st'⟩ := st.claim service id
  obtain ⟨rfl, rfl⟩ := Prod.mk.inj (Option.some.inj (h.symm.trans hv))
  refine ⟨rfl, ?_⟩
  cases asks : strategy.asks registered id <;> rw [asks] at st' <;> exact st'

theorem Stands.register {id : Identity} {c : Call} {outcome : Except Failure Unit}
    {remembers : Bool} {rest : Trace} (st : Stands strategy .no registered s)
    (h : Answers (Stage.handle (served service)) s (⟨.claim id, true⟩ :: ⟨.call c, outcome⟩ ::
      ⟨.settle id outcome.isOk, remembers⟩ :: rest) u) :
    strategy.asks registered id = true ∧ outcome = service s.made c ∧
      ∃ m, Stands strategy .no (registered ++ if outcome.isOk then [id] else []) m ∧
        Answers (Stage.handle (served service)) m rest u := by
  obtain ⟨m₁, h₁, m₂, h₂, m₃, h₃, h₄⟩ := h
  obtain ⟨asks, st₁⟩ := st.of_claim h₁
  have made_eq : m₁.made = s.made ++ [] := (handle_kept h₁).1
  rw [List.append_nil] at made_eq
  obtain ⟨answer, kept⟩ := handle_call h₂
  have st₂ : Stands strategy (.answered id outcome.isOk) registered m₂ := st₁.of_cache kept rfl
  cases h₃
  exact ⟨asks.symm, answer.trans (by rw [made_eq]), _, st₂.settle, h₄⟩

theorem Stands.of_told (entries : List LogEntry) (st : Stands strategy .no registered s)
    (h : Answers (Stage.handle (served service)) s
      (entries.map fun entry => ⟨.log entry, ()⟩) u) : Stands strategy .no registered u := by
  induction entries generalizing s with
  | nil =>
    obtain rfl : s = u := h
    exact st
  | cons entry entries ih =>
    obtain ⟨m, hm, h⟩ := h
    cases hm
    refine ih ?_ h
    exact st.of_cache rfl rfl

theorem fate_of_answers {c : Candidate} {fate : Fate} (h : Passage c t fate)
    (st : Stands strategy .no registered s) (ha : Answers (Stage.handle (served service)) s t u) :
    fate = fateOf strategy service s.made registered c ∧
      Stands strategy .no (registered ++ fate.registered?.toList) u := by
  cases h with
  | nothing =>
    obtain rfl : s = u := ha
    exact ⟨rfl, by simpa [Fate.registered?] using st⟩
  | @untranslated name cause own =>
    have st' := st.of_told [.recordDropped .metrics name cause] ha
    exact ⟨rfl, by simpa [Fate.registered?] using st'⟩
  | @skipped name record =>
    obtain ⟨m, hm, rfl⟩ := ha
    obtain ⟨asks, st'⟩ := st.of_claim hm
    refine ⟨?_, by simpa [Fate.registered?] using st'⟩
    simp [fateOf, ← asks]
  | @registered name record remembers told ht =>
    obtain ⟨asks, answer, m, st', ha⟩ := st.register ha
    refine ⟨?_, ?_⟩
    · simp [fateOf, asks, ← answer]
    · subst ht
      cases remembers with
      | false => exact st'.of_told [] ha
      | true => exact st'.of_told [.descriptorRegistered record.identity.name] ha
  | @refused name record cause seen remembers =>
    obtain ⟨asks, answer, m, st', ha⟩ := st.register ha
    refine ⟨?_, ?_⟩
    · simp [fateOf, asks, ← answer]
    · exact st'.of_told
        [.recordDropped .metrics name (.registration record.descriptor.type seen)] ha

theorem fates_of_answers {cs : List Candidate} {fates : List Fate} (h : Course cs t fates)
    (st : Stands strategy .no registered s) (ha : Answers (Stage.handle (served service)) s t u) :
    fates = fatesOf strategy service s.made registered cs := by
  induction h generalizing s registered with
  | nil => rfl
  | cons first next ih =>
    obtain ⟨m, h₁, h₂⟩ := answers_append.1 ha
    obtain ⟨hf, st'⟩ := fate_of_answers first st h₁
    obtain ⟨hm, -, -⟩ := answers_kept h₁
    rw [calls_of_passage first] at hm
    rw [fatesOf, ih st' h₂, hm, ← hf]

/-! ### The run -/

def opened (strategy : Strategy) (registered : List Identity) (inFlight : Int) : Stage Batch :=
  { Stage.new (.new strategy registered) with lifecycle := ⟨inFlight, false⟩ }

theorem stands_opened (inFlight : Int) : Stands strategy .no registered
    (opened strategy registered inFlight : Stage Batch) where
  strategy_eq := rfl
  registered _ _ := Iff.rfl
  pending _ _ := by simp [opened, Stage.new, DescriptorCache.new, Registering.id?]

/-- An export that is alone runs to its end, whatever the service answers. -/
theorem Stands.run_eq_some {s : Stage (List ResourceMetrics)} (e : MetricExporter)
    (batch : Option (List ResourceMetrics)) (service : Service)
    (st : Stands strategy .no registered s) :
    ∃ result final, ∃ t : Trace,
      (e.exportBatch batch).run (Stage.handle (served service)) s = some (result, final) ∧
      (e.exportBatch batch).Goes t result ∧ Answers (Stage.handle (served service)) s t final := by
  obtain ⟨result, final, run⟩ := (registers_exportBatch batch).run_eq_some
    (fun g s => ∃ known, Stands strategy g known s)
    (fun g s a allowed st => by
      obtain ⟨known, st⟩ := st
      obtain ⟨reply, u, known', h, st'⟩ := st.handle service allowed
      exact ⟨reply, u, h, known', st'⟩)
    ⟨registered, st⟩
  obtain ⟨t, goes, answers⟩ := goes_of_run run
  exact ⟨result, final, t, run, goes, answers⟩

theorem run_eq_some (e : MetricExporter) (batch : List ResourceMetrics) (service : Service)
    (strategy : Strategy) (registered : List Identity) (inFlight : Int) :
    ∃ result final, ∃ t : Trace,
      (e.exportBatch (some batch)).run (Stage.handle (served service))
        (opened strategy registered inFlight : Stage (List ResourceMetrics)) =
          some (result, final) ∧
      (e.exportBatch (some batch)).Goes t result ∧
      Answers (Stage.handle (served service)) (opened strategy registered inFlight) t final :=
  (stands_opened inFlight).run_eq_some e (some batch) service

theorem begun_of_answers {inFlight : Int} {begun : Bool} {rest : Trace}
    (h : Answers (Stage.handle (served service))
      (opened strategy registered inFlight : Stage Batch) (⟨.beginExport, begun⟩ :: rest) u) :
    begun = true ∧ ∃ m : Stage Batch, Stands strategy .no registered m ∧ m.made = [] ∧
      Answers (Stage.handle (served service)) m rest u := by
  obtain ⟨m, hm, answers⟩ := h
  cases hm
  refine ⟨rfl, _, ?_, ?_, answers⟩
  · exact (stands_opened inFlight).of_cache rfl rfl
  · rfl

/-- Where nothing fails but single records and calls, it takes the course that `fatesOf` tells to
its end. The stage keeps its calls and what it told. -/
theorem run_exportBatch {e : MetricExporter} {batch : List ResourceMetrics}
    (own : ∀ c ∈ e.target.candidates batch, c.FailsAlone) (service : Service)
    (strategy : Strategy) (registered : List Identity) (inFlight : Int) :
    ∃ result final t outcomes,
      (e.exportBatch (some batch)).run (Stage.handle (served service))
        (opened strategy registered inFlight : Stage (List ResourceMetrics)) =
          some (result, final) ∧
      Exported e batch t
        (fatesOf strategy service [] registered (e.target.candidates batch)) outcomes result ∧
      t.calls = service.replies [] (t.calls.map Prod.fst) ∧
      final.made = t.calls.map Prod.fst ∧ final.log = told t := by
  obtain ⟨result, final, t, run, goes, answers⟩ :=
    run_eq_some e batch service strategy registered inFlight
  obtain ⟨made_eq, replies, log_eq⟩ := answers_kept answers
  rcases goes_exportBatch goes with ⟨rfl, -⟩ | ⟨fates, outcomes, exported⟩ | ⟨fates, aborted⟩
  · cases (begun_of_answers answers).1
  · obtain ⟨first, second, rfl, course, writing⟩ := exported.parts
    obtain ⟨-, m, begun, unmade, later⟩ := begun_of_answers answers
    obtain ⟨n, gathering, -⟩ := answers_append.1 later
    have fates_eq := fates_of_answers course begun gathering
    rw [unmade] at fates_eq
    subst fates_eq
    exact ⟨result, final, _, outcomes, run, exported, replies, made_eq, log_eq⟩
  · obtain ⟨before, c, after, first, cause, split, doom, -⟩ := aborted.parts
    exact absurd (own c (by rw [split]; simp)) doom

end Stage

end CloudTelemetry
