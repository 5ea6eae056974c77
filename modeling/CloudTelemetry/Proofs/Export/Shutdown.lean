import CloudTelemetry.Proofs.Export.Attendance
import CloudTelemetry.Proofs.Span.Limits

/-!
# Shutdowns of an exporter in use

Any number of callers export, flush and shut down, in any order. They attend the gate
(`Orderly.attended_of_reaches`), so that one of them at most closes the connection, and an export
that comes after the shutdown is turned away. A shutdown that finds nothing in flight seals the
exporter: no call is made any more but its own.
-/

namespace CloudTelemetry
open Procedure

/-! ### Exporters in use -/

def refusal (signal : Signal) : Trace :=
  [⟨.beginExport, false⟩, ⟨.log (.batchRefused signal), ()⟩]

def Traffic.closings {α : Type} (s : Traffic α) : Nat :=
  (s.callers.map fun c => closes c.calls).sum

namespace Exporter
open Traffic

variable {Batch : Type} {e : Exporter Batch} {signal : Signal} {cache : DescriptorCache}
  {requests : List (Request Batch)} {serves : Nat → Trace → Call → Except Failure Unit → Prop}
  {s t : Traffic (Except Failure Response)} {i : Nat} {past : Trace}

theorem Orderly.visits_of_reaches (orderly : e.Orderly signal)
    (h : Reaches serves (e.traffic cache requests) s) (i : Nat)
    (c : Caller (Except Failure Response)) (hc : s.callers[i]? = some c) :
    ∃ final : Presence → Except Failure Response → Prop,
      Obeys presence final (presenceAfter c.past) c.rest := by
  obtain ⟨request, -, leads⟩ := leads_of_reaches h hc
  exact ⟨_, (orderly.visits request).leads leads⟩

theorem Orderly.attended_of_reaches (orderly : e.Orderly signal)
    (h : Reaches serves (e.traffic cache requests) s) : s.Attended := by
  induction h with
  | refl =>
    have quiet : ∀ c ∈ (e.traffic cache requests).callers, c.past = [] := by
      intro c hc
      obtain ⟨p, -, rfl⟩ := List.mem_map.1 hc
      rfl
    have none_inside : inside (e.traffic cache requests) = 0 := by
      refine List.sum_eq_zero fun n hn => ?_
      obtain ⟨c, hc, rfl⟩ := List.mem_map.1 hn
      rw [quiet c hc]
      rfl
    have none_shut : shutdowns (e.traffic cache requests) = 0 := by
      refine List.sum_eq_zero fun n hn => ?_
      obtain ⟨c, hc, rfl⟩ := List.mem_map.1 hn
      rw [quiet c hc]
      rfl
    refine ⟨?_, ?_, nofun⟩
    · rw [none_inside]
      rfl
    · rw [none_shut]
      exact Nat.le_refl 0
  | step before last ih => exact ih.step (orderly.visits_of_reaches before) last

/-- Each close, also one in progress, is that of a shutdown that was told that it is the one. -/
theorem Orderly.closes_le (orderly : e.Orderly signal)
    (h : Reaches serves (e.traffic cache requests) s) {c : Caller (Except Failure Response)}
    (hc : s.callers[i]? = some c) : closes c.calls ≤ transitions c.past := by
  obtain ⟨request, -, leads⟩ := leads_of_reaches h hc
  have own := closes_of_leads (orderly.visits request) leads
  have outside : Presence.isClosing .outside = 0 := rfl
  unfold Caller.calls
  rw [closes_append]
  obtain ⟨rest, past⟩ := c
  dsimp only at own ⊢
  split
  · obtain ⟨_, allowed, -⟩ := orderly.visits_of_reaches h i _ hc
    have last := Presence.Allows.closes_le allowed
    change _ ≤ (presence.afterAll .outside past).isClosing at last
    omega
  · have none_more : closes [] = 0 := rfl
    omega

theorem Orderly.closings_le (orderly : e.Orderly signal)
    (h : Reaches serves (e.traffic cache requests) s) : s.closings ≤ s.shutdowns := by
  refine List.sum_le_sum fun c hc => ?_
  obtain ⟨i, hi⟩ := List.getElem?_of_mem hc
  exact orderly.closes_le h hi

theorem Orderly.shutdowns_le (orderly : e.Orderly signal)
    (h : Reaches serves (e.traffic cache requests) s) : s.shutdowns ≤ 1 := by
  have once := (orderly.attended_of_reaches h).once
  split at once <;> omega

theorem Orderly.shut_of_reaches (orderly : e.Orderly signal)
    (h : Reaches serves (e.traffic cache requests) s)
    (shut : s.shared.gate.lifecycle.isShutdown = true) (later : Reaches serves s t) :
    t.shared.gate.lifecycle.isShutdown = true := by
  induction later with
  | refl => exact shut
  | step before last ih =>
    exact (orderly.attended_of_reaches (h.trans before)).shut_of_step ih last

theorem Orderly.sealed_of_reaches (orderly : e.Orderly signal) {calls : Nat → List Call}
    (h : Reaches serves (e.traffic cache requests) s) (closed : s.Sealed calls)
    (later : Reaches serves s t) : t.Sealed calls := by
  induction later with
  | refl => exact closed
  | step before last ih =>
    have reached := h.trans before
    exact ih.step (orderly.attended_of_reaches reached) (orderly.visits_of_reaches reached) last

/-! ### Exports that are refused -/

/-- The ways of an export that comes after the shutdown. -/
inductive Refused (signal : Signal) (next : Bool → Steps (Except Failure Response)) :
    Caller (Except Failure Response) → Prop
  | asking : Refused signal next ⟨.ask .beginExport next, []⟩
  | told : Refused signal next ⟨turnedAway signal, [⟨.beginExport, false⟩]⟩
  | returned : Refused signal next ⟨.done (.ok (.exported .failure)), refusal signal⟩

theorem Orderly.past_of_entry (orderly : e.Orderly signal)
    (h : Reaches serves (e.traffic cache requests) s) {action : Action}
    {next : action.Reply → Steps (Except Failure Response)}
    (caller : s.callers[i]? = some ⟨.ask action next, past⟩) (idle : ¬ action.IsWork)
    (stays : action ≠ .endExport) (leaves : action ≠ .call .close) :
    past = [] ∧ ∃ request, e.answer request = .ask action next := by
  obtain ⟨request, -, leads⟩ := leads_of_reaches h caller
  obtain ⟨allowed, -⟩ := (orderly.visits request).leads leads
  have out := Presence.Allows.eq_outside allowed idle stays leaves
  obtain rfl : past = [] := eq_nil_of_leads (orderly.visits request) leads out
  exact ⟨rfl, request, leads_nil.1 leads⟩

theorem attempt_begin_of_shut {shared : Shared} {timeUp : Bool}
    (shut : shared.gate.lifecycle.isShutdown = true) :
    shared.attempt i timeUp .beginExport = some (some false, shared) := by
  unfold Shared.attempt
  rw [Gate.beginExport_of_shut shut]

theorem Refused.step {next : Bool → Steps (Except Failure Response)}
    (turned : next false = turnedAway signal) (shut : s.shared.gate.lifecycle.isShutdown = true)
    {c : Caller (Except Failure Response)} (hc : s.callers[i]? = some c)
    (refused : Refused signal next c) (h : Step serves s t) :
    ∃ d, t.callers[i]? = some d ∧ Refused signal next d := by
  cases h with
  | @answered shared after callers j past action next' timeUp reply caller attempt =>
    by_cases hj : j = i
    · subst hj
      obtain ⟨hi, -⟩ := List.getElem?_eq_some_iff.1 hc
      refine ⟨_, List.getElem?_set_self hi, ?_⟩
      obtain rfl := Option.some.inj (hc.symm.trans caller)
      cases refused with
      | asking =>
        rw [attempt_begin_of_shut shut] at attempt
        cases attempt
        unfold Caller.goOn
        rw [turned]
        exact .told
      | told => exact .returned
    · exact ⟨c, (List.getElem?_set_ne hj).trans hc, refused⟩
  | asleep timeUp caller attempt => exact ⟨c, hc, refused⟩
  | @served shared callers j past call next' outcome caller reply =>
    have hj : j ≠ i := by
      rintro rfl
      obtain rfl := Option.some.inj (hc.symm.trans caller)
      cases refused
    exact ⟨c, (List.getElem?_set_ne hj).trans hc, refused⟩

theorem returns_of_told {shared : Shared} {callers : List (Caller (Except Failure Response))}
    (caller : callers[i]? = some ⟨turnedAway signal, [⟨.beginExport, false⟩]⟩) :
    Step serves ⟨shared, callers⟩
      ⟨shared, callers.set i ⟨.done (.ok (.exported .failure)), refusal signal⟩⟩ :=
  .answered false caller rfl

theorem Refused.returns {next : Bool → Steps (Except Failure Response)}
    (turned : next false = turnedAway signal) (shut : s.shared.gate.lifecycle.isShutdown = true)
    {c : Caller (Except Failure Response)} (hc : s.callers[i]? = some c)
    (refused : Refused signal next c) : Reaches serves s ⟨s.shared,
      s.callers.set i ⟨.done (.ok (.exported .failure)), refusal signal⟩⟩ := by
  obtain ⟨shared, callers⟩ := s
  obtain ⟨hi, hget⟩ := List.getElem?_eq_some_iff.1 hc
  cases refused with
  | asking =>
    have first : Step serves ⟨shared, callers⟩
        ⟨shared, callers.set i ⟨next false, [⟨.beginExport, false⟩]⟩⟩ :=
      .answered false hc (attempt_begin_of_shut shut)
    rw [turned] at first
    have second : Step serves ⟨shared, callers.set i ⟨turnedAway signal, [⟨.beginExport, false⟩]⟩⟩
        ⟨shared, (callers.set i ⟨turnedAway signal, [⟨.beginExport, false⟩]⟩).set i
          ⟨.done (.ok (.exported .failure)), refusal signal⟩⟩ :=
      returns_of_told (List.getElem?_set_self hi)
    rw [List.set_set] at second
    exact (Reaches.refl.step first).step second
  | told => exact Reaches.refl.step (returns_of_told hc)
  | returned =>
    have same : callers.set i ⟨.done (.ok (.exported .failure)), refusal signal⟩ = callers := by
      rw [← hget]
      exact List.set_getElem_self hi
    rw [same]
    exact .refl

/-! ### What a shutdown does -/

/-- What an exporter and its shutdown are to all that is asked of it at once. `waitsOut` says of
which shutdowns the wait cannot end but with nothing in flight. -/
structure ShutsDown (e : Exporter Batch) (signal : Signal) (waitsOut : Patience → Bool → Prop) :
    Prop where
  /-- an export that has not begun when the exporter is shut down is refused, and returns -/
  refuses : ∀ {serves cache requests s t i next past},
    Reaches serves (e.traffic cache requests) s → s.shared.gate.lifecycle.isShutdown = true →
    s.callers[i]? = some ⟨.ask .beginExport next, past⟩ → Reaches serves s t →
    ∃ c, t.callers[i]? = some c ∧ Refused signal next c ∧ Reaches serves t ⟨t.shared,
      t.callers.set i ⟨.done (.ok (.exported .failure)), refusal signal⟩⟩
  closesOnce : ∀ {serves cache requests s},
    Reaches serves (e.traffic cache requests) s → s.closings ≤ 1
  waits : ∀ {serves cache requests shared callers i patience next past timeUp after},
    Reaches serves (e.traffic cache requests) ⟨shared, callers⟩ →
    callers[i]? = some ⟨.ask (.shutDown patience) next, past⟩ →
    shared.attempt i timeUp (.shutDown patience) = some (some (.ok true), after) →
    waitsOut patience timeUp → after.gate.lifecycle.inFlight = 0
  /-- nothing was closed before a shutdown that found nothing in flight; then no call is in progress
  or made but its close -/
  seals : ∀ {serves cache requests shared callers i patience next past timeUp after},
    Reaches serves (e.traffic cache requests) ⟨shared, callers⟩ →
    callers[i]? = some ⟨.ask (.shutDown patience) next, past⟩ →
    shared.attempt i timeUp (.shutDown patience) = some (some (.ok true), after) →
    after.gate.lifecycle.inFlight = 0 →
    (⟨shared, callers⟩ : Traffic (Except Failure Response)).closings = 0 ∧
    ∀ {u}, Reaches serves
        ⟨after, callers.set i (.goOn past (.shutDown patience) next (.ok true))⟩ u →
      (∀ c ∈ u.callers, ∀ call next, c.rest = .ask (.call call) next → call = .close) ∧
      ∀ {j c d}, callers[j]? = some c → u.callers[j]? = some d →
        work d.past = work c.past ∧ (j ≠ i → closes d.calls = 0)

section
variable {shared after : Shared} {callers : List (Caller (Except Failure Response))}
  {patience : Patience} {next : Except Failure Bool → Steps (Except Failure Response)}
  {timeUp : Bool}

theorem transitions_mono {past later : Trace} (h : past <+: later) :
    transitions past ≤ transitions later := by
  obtain ⟨rest, rfl⟩ := h
  rw [transitions_append]
  exact Nat.le_add_right _ _

/-- The one shutdown finds nobody inside and shuts the gate, where nothing is in flight. -/
theorem Orderly.sealed_of_attempt (orderly : e.Orderly signal)
    (h : Reaches serves (e.traffic cache requests) ⟨shared, callers⟩)
    (caller : callers[i]? = some ⟨.ask (.shutDown patience) next, past⟩)
    (attempt : shared.attempt i timeUp (.shutDown patience) = some (some (.ok true), after))
    (idle : after.gate.lifecycle.inFlight = 0) :
    (⟨after, callers.set i (.goOn past (.shutDown patience) next (.ok true))⟩ :
      Traffic (Except Failure Response)).Sealed fun j =>
        ((callers[j]?).map fun c => work c.past).getD [] := by
  have first : Step serves ⟨shared, callers⟩ _ := .answered timeUp caller attempt
  have attended := orderly.attended_of_reaches (h.step first)
  refine ⟨?_, fun j c hc inside => ?_, fun j c hc => ?_⟩
  · have once := attended.once
    rw [shutdowns_set shared caller] at once
    have one : transitions [⟨.shutDown patience, .ok true⟩] = 1 := rfl
    show after.gate.lifecycle.isShutdown = true
    by_contra isOpen
    rw [if_neg isOpen] at once
    omega
  · have count := attended.count
    have none_inside : Traffic.inside _ = 0 := Int.ofNat_eq_zero.1 (count.symm.trans idle)
    have zero := List.sum_eq_zero_iff.1 none_inside _
      (List.mem_map_of_mem (List.mem_of_getElem? hc))
    rw [inside] at zero
    cases zero
  · rcases getElem?_set_cases hc with ⟨rfl, rfl⟩ | ⟨-, hc⟩
    · rw [caller]
      show work (past ++ _) = work past
      unfold work
      rw [Trace.calls_append, List.map_append, List.filter_append]
      exact List.append_nil _
    · rw [hc]
      rfl

theorem Orderly.closes_eq_zero (orderly : e.Orderly signal)
    (h : Reaches serves (e.traffic cache requests) s) {j : Nat}
    {c d : Caller (Except Failure Response)} (hc : s.callers[i]? = some c)
    (one : 1 ≤ transitions c.past) (hd : s.callers[j]? = some d) (other : j ≠ i) :
    closes d.calls = 0 := by
  have own := orderly.closes_le h hd
  have all := orderly.shutdowns_le h
  have hc' : (s.callers.map fun c => transitions c.past)[i]? = some (transitions c.past) := by
    rw [List.getElem?_map, hc]
    rfl
  have hd' : (s.callers.map fun c => transitions c.past)[j]? = some (transitions d.past) := by
    rw [List.getElem?_map, hd]
    rfl
  have both := add_le_sum hc' hd' other.symm
  unfold shutdowns at all
  omega

end

theorem Orderly.close_of_sealed (orderly : e.Orderly signal)
    (h : Reaches serves (e.traffic cache requests) s) {calls : Nat → List Call}
    (closed : s.Sealed calls) {c : Caller (Except Failure Response)} (hc : c ∈ s.callers)
    {call : Call} {next : Except Failure Unit → Steps (Except Failure Response)}
    (rest : c.rest = .ask (.call call) next) : call = .close := by
  obtain ⟨k, hk⟩ := List.getElem?_of_mem hc
  obtain ⟨_, visits⟩ := orderly.visits_of_reaches h k c hk
  rw [rest] at visits
  rcases Presence.Allows.call_cases visits.1 with ⟨inside, -⟩ | ⟨-, close⟩
  · exact absurd inside (closed.outside k c hk)
  · exact close

theorem Orderly.refused_of_reaches (orderly : e.Orderly signal)
    (h : Reaches serves (e.traffic cache requests) s)
    (shut : s.shared.gate.lifecycle.isShutdown = true)
    {next : Bool → Steps (Except Failure Response)} (turned : next false = turnedAway signal)
    (caller : s.callers[i]? = some ⟨.ask .beginExport next, []⟩) (later : Reaches serves s t) :
    ∃ c, t.callers[i]? = some c ∧ Refused signal next c := by
  induction later with
  | refl => exact ⟨_, caller, .asking⟩
  | step before last ih =>
    obtain ⟨c, hc, refused⟩ := ih
    exact refused.step turned (orderly.shut_of_reaches h shut before) hc last

theorem Orderly.shutsDown {waitsOut : Patience → Bool → Prop} (orderly : e.Orderly signal)
    (time : ∀ request patience next timeUp, e.answer request = .ask (.shutDown patience) next →
      waitsOut patience timeUp → ¬ patience.RunsOut timeUp) : e.ShutsDown signal waitsOut where
  refuses := by
    intro serves cache requests s t i next past h shut caller later
    obtain ⟨rfl, request, answer⟩ := orderly.past_of_entry h caller id nofun nofun
    have turned := orderly.refuses request next answer
    obtain ⟨c, hc, refused⟩ := orderly.refused_of_reaches h shut turned caller later
    exact ⟨c, hc, refused, refused.returns turned (orderly.shut_of_reaches h shut later) hc⟩
  closesOnce h := Nat.le_trans (orderly.closings_le h) (orderly.shutdowns_le h)
  waits := by
    intro serves cache requests shared callers i patience next past timeUp after h caller attempt
      waitsOut
    obtain ⟨-, request, answer⟩ := orderly.past_of_entry h caller id nofun nofun
    have asks := (orderly.attended_of_reaches h).asks_of_caller caller
    exact Shared.idle_of_wait asks (time request patience next timeUp answer waitsOut) attempt
  seals := by
    intro serves cache requests shared callers i patience next past timeUp after h caller attempt
      idle
    have first : Step serves ⟨shared, callers⟩ _ := .answered timeUp caller attempt
    have one : transitions [⟨.shutDown patience, .ok true⟩] = 1 := rfl
    refine ⟨?_, fun {u} later => ?_⟩
    · have before := orderly.closings_le h
      have once := orderly.shutdowns_le (h.step first)
      rw [shutdowns_set shared caller, one] at once
      omega
    · have reached := (h.step first).trans later
      have closed := orderly.sealed_of_reaches (h.step first)
        (orderly.sealed_of_attempt h caller attempt idle) later
      refine ⟨fun c hc call next rest => orderly.close_of_sealed reached closed hc rest,
        fun {j c d} hc hd => ⟨?_, fun other => ?_⟩⟩
      · rw [closed.made j d hd, hc]
        rfl
      · obtain ⟨hi, -⟩ := List.getElem?_eq_some_iff.1 caller
        obtain ⟨k, hk, grown⟩ := later.past_prefix (List.getElem?_set_self hi)
        have told := transitions_mono grown
        unfold Caller.goOn at told
        rw [transitions_append, one] at told
        exact orderly.closes_eq_zero reached hk (by omega) hd other

end Exporter

/-- Both exporters, asked for any exports, flushes and shutdowns at once, in any order, whatever
the service answers. An export that begins after the shutdown fails and touches nothing; the
connection is closed once at most; and behind a shutdown that found nothing in flight there is no
call any more but to close. The wait of a metric exporter ends so unless its time is up, and that of
a span exporter always does. -/
theorem shuts_down (m : MetricExporter) (sp : SpanExporter) :
    m.exporter.ShutsDown .metrics (fun patience timeUp => ¬ patience.RunsOut timeUp) ∧
      sp.exporter.ShutsDown .trace fun _ _ => True := by
  refine ⟨m.orderly.shutsDown fun _ _ _ _ _ time => time,
    sp.orderly.shutsDown fun request patience next timeUp answer _ => ?_⟩
  have unlimited : patience = .unlimited := by
    cases request with
    | shutdown millis =>
      cases millis <;> cases answer
      rfl
    | forceFlush millis =>
      change (Steps.flushing _).bind _ = _ at answer
      unfold Steps.flushing at answer
      split at answer <;> cases answer
    | exportBatch | state | projectName => cases answer
  rw [unlimited]
  rintro (h | ⟨h, -⟩) <;> cases h

def SpanExporter.sample : SpanExporter := ⟨Span.Sample.shop, ⟨.null, true⟩⟩

/-- A shutdown sleeps while an export is in flight, and is woken by its end. -/
theorem shuts_down_while_exporting :
    ∃ s after next, Traffic.Reaches (fun _ _ _ _ => True) (SpanExporter.sample.exporter.traffic
        (.new .sendOnce []) [.exportBatch none, .shutdown none]) s ∧
      s.callers[1]? = some ⟨.ask (.shutDown .unlimited) next, []⟩ ∧
      s.shared.attempt 1 false (.shutDown .unlimited) = some (some (.ok true), after) ∧
      after.gate.lifecycle.inFlight = 0 ∧ s.closings = 0 := by
  have begun : Traffic.Reaches (fun _ _ _ _ => True) (SpanExporter.sample.exporter.traffic
        (.new .sendOnce []) [.exportBatch none, .shutdown none]) _ :=
    .step .refl (@Traffic.Step.answered _ _ _ _ _ 0 _ .beginExport _ false _ rfl rfl)
  have waits := begun.step
    (@Traffic.Step.asleep _ _ _ _ _ 1 _ (.shutDown .unlimited) _ false rfl rfl)
  have told := waits.step (@Traffic.Step.answered _ _ _ _ _ 0 _ (.log _) _ false _ rfl rfl)
  have ended : Traffic.Reaches _ _ ⟨⟨⟨⟨0, true⟩, [(1, ⟨.shutdown, false, true⟩)]⟩, _⟩, _⟩ :=
    told.step (@Traffic.Step.answered _ _ _ _ _ 0 _ .endExport _ false _ rfl rfl)
  obtain ⟨-, shuts⟩ := shuts_down ⟨⟨"shop", defaultTypePrefix⟩, ⟨.null, true⟩⟩ SpanExporter.sample
  have idle := @Exporter.ShutsDown.waits _ _ _ _ shuts _ _ _ _ _ 1 .unlimited _ _ false _ ended rfl
    rfl trivial
  have unclosed := (@Exporter.ShutsDown.seals _ _ _ _ shuts _ _ _ _ _ 1 .unlimited _ _ false _
    ended rfl rfl idle).1
  exact ⟨_, _, _, ended, rfl, rfl, idle, unclosed⟩

end CloudTelemetry
