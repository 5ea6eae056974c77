import CloudTelemetry.Proofs.Export.Delivery
import CloudTelemetry.Proofs.Export.Enrolment
import CloudTelemetry.Proofs.Export.Presence
import CloudTelemetry.Proofs.Export.Sharing
import CloudTelemetry.Proofs.Export.Steady

/-!
# Descriptors come before series

Any number of exports of one exporter, and whatever else it is asked, at a service that may answer
as it likes. `Vouches` ties the replies that callers were given to the cache: an identity was passed
over or settled only where the cache has it now, and the cache has nothing that it did not begin
with or was not told. A write in progress is a run of records whose descriptors have been seen to
(`registered_before_written`).
-/

namespace CloudTelemetry
open Procedure

/-- Replies that vouch for what is registered now. -/
def Vouched (strategy : Strategy) (current : List Identity) : Exchange Action Action.Reply → Prop
  | ⟨.claim id, false⟩ => strategy = .neverSend ∨ strategy = .sendOnce ∧ id ∈ current
  | ⟨.claim _, true⟩ => strategy ≠ .neverSend
  | ⟨.settle id true, _⟩ => strategy = .sendOnce → id ∈ current
  | _ => True

theorem Vouched.mono {strategy : Strategy} {current later : List Identity}
    {x : Exchange Action Action.Reply} (h : Vouched strategy current x)
    (grows : ∀ id ∈ current, id ∈ later) : Vouched strategy later x := by
  rcases x with ⟨a, reply⟩
  cases a with
  | claim id =>
    cases reply with
    | false => exact h.imp_right fun ⟨once, known⟩ => ⟨once, grows id known⟩
    | true => exact h
  | settle id succeeded =>
    cases succeeded with
    | false => trivial
    | true => exact fun once => grows id (h once)
  | beginExport | endExport | isShutdown | waitIdle | shutDown | state | call | log => trivial

/-! ### At the desk -/

theorem ClaimDesk.ask_told {d after : ClaimDesk} {i : Nat} {id : Identity} {progress : Progress}
    (h : d.ask i id = (progress, after)) :
    after.cache.strategy = d.cache.strategy ∧ after.cache.registered = d.cache.registered ∧
      ∀ claimed, progress = .returned claimed →
        Vouched d.cache.strategy d.cache.registered ⟨.claim id, claimed⟩ := by
  cases strategy : d.cache.strategy with
  | alwaysSend =>
    simp only [ask, DescriptorCache.claim, strategy] at h
    obtain ⟨rfl, rfl⟩ := Prod.mk.inj h
    refine ⟨strategy, rfl, ?_⟩
    rintro claimed ⟨⟩ never
    cases never
  | neverSend =>
    simp only [ask, DescriptorCache.claim, strategy] at h
    obtain ⟨rfl, rfl⟩ := Prod.mk.inj h
    refine ⟨strategy, rfl, ?_⟩
    rintro claimed ⟨⟩
    exact .inl rfl
  | sendOnce =>
    rcases d.ask_cases strategy i id with ⟨-, ha⟩ | ⟨⟨-, known⟩, ha⟩ | ⟨⟨-, new⟩, ha⟩ <;>
      rw [h] at ha <;> cases ha
    · refine ⟨strategy, rfl, ?_⟩
      rintro claimed ⟨⟩
    · refine ⟨strategy, rfl, ?_⟩
      rintro claimed ⟨⟩
      exact .inr ⟨rfl, known⟩
    · refine ⟨strategy, rfl, ?_⟩
      rintro claimed ⟨⟩ never
      cases never

namespace Shared

variable {s after : Shared} {i : Nat} {timeUp : Bool}

abbrev registered (s : Shared) : List Identity := s.desk.cache.registered

/-- What an attempt does to the cache, and what its reply says of it. -/
structure Learns (s after : Shared) (x : Option (Exchange Action Action.Reply)) : Prop where
  strategy_eq : after.desk.cache.strategy = s.desk.cache.strategy
  grows : ∀ id ∈ s.registered, id ∈ after.registered
  source : ∀ id ∈ after.registered, id ∈ s.registered ∨
    ∃ remembers : Bool, x = some ⟨.settle id true, remembers⟩
  vouched : ∀ y, x = some y → Vouched s.desk.cache.strategy after.registered y

theorem learns_of_same {x : Option (Exchange Action Action.Reply)}
    (strategy_eq : after.desk.cache.strategy = s.desk.cache.strategy)
    (same : after.registered = s.registered)
    (vouched : ∀ y, x = some y → Vouched s.desk.cache.strategy s.registered y) :
    s.Learns after x where
  strategy_eq := strategy_eq
  grows id h := by rwa [same]
  source id h := by
    rw [same] at h
    exact .inl h
  vouched y h := by
    rw [same]
    exact vouched y h

theorem learns_of_claim {id : Identity} {reply : Option Bool}
    (h : s.claim i id = some (reply, after)) :
    s.Learns after (reply.map fun claimed => ⟨.claim id, claimed⟩) := by
  unfold claim at h
  split at h
  · split at h <;> cases h
    · rename_i claimed desk asked
      obtain ⟨strategy_eq, same, told⟩ := ClaimDesk.ask_told asked
      refine learns_of_same strategy_eq same ?_
      rintro y ⟨⟩
      exact told claimed rfl
    · rename_i desk asked
      obtain ⟨strategy_eq, same, -⟩ := ClaimDesk.ask_told asked
      exact learns_of_same strategy_eq same nofun
  · cases h

theorem learns_of_settle (s : Shared) (id : Identity) (succeeded remembers : Bool) :
    s.Learns { s with desk := s.desk.settle id succeeded }
      (some ⟨.settle id succeeded, remembers⟩) := by
  by_cases once : s.desk.cache.strategy = .sendOnce
  · have mem : ∀ x, x ∈ (s.desk.settle id succeeded).cache.registered ↔
        x ∈ s.desk.cache.registered ∨ succeeded = true ∧ x = id :=
      fun x => DescriptorCache.mem_registered_settle once
    refine ⟨DescriptorCache.strategy_settle .., fun x h => (mem x).2 (.inl h), fun x h => ?_, ?_⟩
    · rcases (mem x).1 h with h | ⟨rfl, rfl⟩
      · exact .inl h
      · exact .inr ⟨remembers, rfl⟩
    · rintro y ⟨⟩
      cases succeeded with
      | false => trivial
      | true => exact fun _ => (mem id).2 (.inr ⟨rfl, rfl⟩)
  · have same : (s.desk.settle id succeeded).cache = s.desk.cache :=
      DescriptorCache.settle_of_ne_sendOnce once id succeeded
    refine learns_of_same (congrArg DescriptorCache.strategy same)
      (congrArg DescriptorCache.registered same) ?_
    rintro y ⟨⟩
    cases succeeded with
    | false => trivial
    | true => exact fun h => absurd h once

theorem learns_of_attempt {a : Action} {reply : Option a.Reply}
    (h : s.attempt i timeUp a = some (reply, after)) :
    s.Learns after (reply.map fun r => ⟨a, r⟩) := by
  have aside : (∀ y : a.Reply, Vouched s.desk.cache.strategy s.registered ⟨a, y⟩) →
      after.desk = s.desk → s.Learns after (reply.map fun r => ⟨a, r⟩) := by
    intro vouched same
    refine learns_of_same (congrArg (fun d => d.cache.strategy) same)
      (congrArg (fun d => d.cache.registered) same) ?_
    intro y hy
    obtain ⟨r, -, rfl⟩ := Option.map_eq_some_iff.1 hy
    exact vouched r
  cases a with
  | claim id => exact learns_of_claim h
  | settle id succeeded =>
    cases h
    exact learns_of_settle ..
  | waitIdle patience => exact aside (fun _ => trivial) (desk_of_wait h)
  | shutDown patience => exact aside (fun _ => trivial) (desk_of_wait h)
  | beginExport | endExport | isShutdown | state | log =>
    cases h
    exact aside (fun _ => trivial) rfl
  | call => cases h

end Shared

/-! ### Callers and the cache -/

namespace Traffic

variable {α : Type} {serves : Nat → Trace → Call → Except Failure Unit → Prop} {s t : Traffic α}
  {strategy : Strategy} {initial : List Identity}

/-- What ties the callers, whatever they do, to the cache. -/
structure Vouches (strategy : Strategy) (initial : List Identity) (s : Traffic α) : Prop where
  strategy_eq : s.shared.desk.cache.strategy = strategy
  vouched : ∀ (i : Nat) (c : Caller α), s.callers[i]? = some c →
    ∀ x ∈ c.past, Vouched strategy s.registered x
  source : ∀ id ∈ s.registered, id ∈ initial ∨
    ∃ (i : Nat) (c : Caller α), s.callers[i]? = some c ∧ 0 < settlements id c.past

theorem Vouches.start (strategy : Strategy) (initial : List Identity)
    (procedures : List (Steps α)) :
    (start (.new strategy initial) procedures).Vouches strategy initial where
  strategy_eq := rfl
  vouched i c hc x hx := by
    obtain ⟨p, -, rfl⟩ := Option.map_eq_some_iff.1 ((List.getElem?_map ..).symm.trans hc)
    cases hx
  source id h := .inl h

theorem Vouches.goOn {shared after : Shared} {callers : List (Caller α)} {i : Nat} {past : Trace}
    {action : Action} {next : action.Reply → Steps α} {reply : action.Reply}
    (vouches : (⟨shared, callers⟩ : Traffic α).Vouches strategy initial)
    (caller : callers[i]? = some ⟨.ask action next, past⟩)
    (learns : shared.Learns after (some ⟨action, reply⟩)) :
    (⟨after, callers.set i (.goOn past action next reply)⟩ : Traffic α).Vouches strategy
      initial where
  strategy_eq := learns.strategy_eq.trans vouches.strategy_eq
  vouched j c hc x hx := by
    have told : Vouched strategy after.registered ⟨action, reply⟩ := by
      have told := learns.vouched _ rfl
      rwa [show shared.desk.cache.strategy = strategy from vouches.strategy_eq] at told
    rcases getElem?_set_cases hc with ⟨rfl, rfl⟩ | ⟨-, hc⟩
    · rcases List.mem_append.1 hx with hx | hx
      · exact (vouches.vouched j _ caller x hx).mono learns.grows
      · rw [List.mem_singleton.1 hx]
        exact told
    · exact (vouches.vouched j c hc x hx).mono learns.grows
  source id h := by
    have kept : ∀ {j : Nat} {c : Caller α}, callers[j]? = some c → 0 < settlements id c.past →
        ∃ (k : Nat) (d : Caller α), (callers.set i (.goOn past action next reply))[k]? = some d ∧
          0 < settlements id d.past := by
      intro j c hc pos
      obtain ⟨d, hd, rest, heq⟩ := past_prefix_set hc caller reply
      refine ⟨j, d, hd, ?_⟩
      rw [← heq, settlements_append]
      omega
    rcases learns.source id h with h | ⟨remembers, heq⟩
    · rcases vouches.source id h with h | ⟨j, c, hc, pos⟩
      · exact .inl h
      · exact .inr (kept hc pos)
    · -- the caller that goes on has settled the claim just now
      obtain ⟨hi, -⟩ := List.getElem?_eq_some_iff.1 caller
      refine .inr ⟨i, _, List.getElem?_set_self hi, ?_⟩
      have one : settlements id [⟨.settle id true, remembers⟩] = 1 := by
        simp [settlements]
      show 0 < settlements id (past ++ _)
      rw [Option.some.inj heq, settlements_append, one]
      omega

theorem Vouches.step (vouches : s.Vouches strategy initial) (h : Step serves s t) :
    t.Vouches strategy initial := by
  cases h with
  | answered timeUp caller attempt => exact vouches.goOn caller (Shared.learns_of_attempt attempt)
  | asleep timeUp caller attempt =>
    have learns := Shared.learns_of_attempt attempt
    refine ⟨learns.strategy_eq.trans vouches.strategy_eq, fun i c hc x hx => ?_, fun id h => ?_⟩
    · exact (vouches.vouched i c hc x hx).mono learns.grows
    · rcases learns.source id h with h | ⟨remembers, heq⟩
      · exact vouches.source id h
      · cases heq
  | served caller reply =>
    refine vouches.goOn caller (Shared.learns_of_same rfl rfl ?_)
    rintro y ⟨⟩
    trivial

theorem vouches_of_reaches {procedures : List (Steps α)}
    (h : Reaches serves (start (.new strategy initial) procedures) s) :
    s.Vouches strategy initial := by
  induction h with
  | refl => exact Vouches.start ..
  | step before last ih => exact ih.step last

end Traffic

/-! ### What is asked besides exports -/

/-- The action is none of an export of metrics, or tells something. -/
def Action.IsApart : Action → Prop
  | .waitIdle _ | .shutDown _ | .state | .log _ => True
  | .call c => c.isClose = true
  | _ => False

def apart : Protocol Action Action.Reply Unit where
  allows _ a := a.IsApart
  after _ _ _ := ()

namespace MetricExporter
open Traffic

variable {e : MetricExporter} {target : MetricTarget} {strategy : Strategy}
  {initial : List Identity} {batch : List ResourceMetrics} {past : Trace} {α : Type}
  {serves : Nat → Trace → Call → Except Failure Unit → Prop}
  {requests : List (Request (List ResourceMetrics))} {request : Request (List ResourceMetrics)}
  {s : Traffic (Except Failure Response)}

/-- The procedure keeps apart from descriptors and series. -/
abbrev StaysApart (p : Steps α) : Prop := Obeys apart (fun later _ => later = ()) () p

theorem apart_pure (a : α) : StaysApart (pure a : Steps α) := obeys_pure rfl

theorem apart_act (a : Action) (allowed : a.IsApart) : StaysApart (Steps.act a) :=
  obeys_request allowed fun _ => rfl

theorem apart_flushing (millis : Value) : StaysApart (Steps.flushing millis) := by
  unfold Steps.flushing
  split
  · exact apart_act (.waitIdle _) trivial
  · exact apart_pure _

theorem apart_shuttingDown (signal : Signal) (operation : String) (client : Client)
    (patience : Patience) :
    StaysApart (Steps.shuttingDown signal operation client patience) := by
  have tells : ∀ entry,
      StaysApart (do Steps.log entry; return .ok () : Steps (Except Failure Unit)) :=
    fun entry => stays_bind (apart_act (.log entry) trivial) fun _ => apart_pure _
  refine stays_bind (apart_act (.shutDown patience) trivial) fun told => ?_
  rcases told with cause | _ | _
  · exact apart_pure _
  · exact tells _
  · dsimp only
    split
    · have closes : StaysApart (Steps.call .close) :=
        stays_bind (apart_act (.call .close) rfl) fun _ => apart_pure _
      refine stays_bind closes fun outcome => ?_
      cases outcome with
      | ok u => exact apart_pure _
      | error cause => exact tells _
    · exact apart_pure _

theorem exports_or_apart (e : MetricExporter) (request : Request (List ResourceMetrics)) :
    (∃ batch, request = .exportBatch batch) ∨ StaysApart (e.exporter.answer request) := by
  cases request with
  | exportBatch batch => exact .inl ⟨batch, rfl⟩
  | forceFlush millis => exact .inr (stays_bind (apart_flushing _) fun _ => apart_pure _)
  | shutdown millis =>
    refine .inr (stays_bind ?_ fun _ => apart_pure _)
    show StaysApart (e.shutdown millis)
    unfold MetricExporter.shutdown
    split
    · exact apart_shuttingDown ..
    · exact apart_pure _
  | state => exact .inr (stays_bind (apart_act .state trivial) fun _ => apart_pure _)
  | projectName => exact .inr (apart_pure _)

theorem registers_or_apart (e : MetricExporter) (request : Request (List ResourceMetrics)) :
    Registers e.target (e.exporter.answer request) ∨ StaysApart (e.exporter.answer request) := by
  rcases exports_or_apart e request with ⟨batch, rfl⟩ | quiet
  · exact .inl (registers_bind (registers_exportBatch batch) fun _ => registers_pure _)
  · exact .inr quiet

/-! ### Exports that are granted no claim -/

theorem unclaimed_step {r : Action} {reply : r.Reply} (allowed : Registering.no.Allows target r)
    (refused : ∀ id, (⟨r, reply⟩ : Exchange Action Action.Reply) ≠ ⟨.claim id, true⟩) :
    Registering.after .no r reply = .no ∧ ∀ d, r ≠ .call (.createDescriptor d) := by
  rcases allowed.cases with ⟨entry, rfl⟩ | ⟨-, rfl | rfl | ⟨id, rfl⟩ | ⟨series, rfl⟩⟩ |
    ⟨d, claimed, -⟩ | ⟨id, succeeded, answered, -⟩
  · exact ⟨rfl, nofun⟩
  · exact ⟨rfl, nofun⟩
  · exact ⟨rfl, nofun⟩
  · cases reply with
    | true => exact absurd rfl (refused id)
    | false => exact ⟨rfl, nofun⟩
  · exact ⟨rfl, nofun⟩
  · cases claimed
  · cases answered

theorem unsent_of_leads {final : Registering → α → Prop} {p q : Steps α} {t : Trace}
    (h : Obeys (registering target) final .no p) (hl : p.Leads t q)
    (refused : ∀ id, (⟨.claim id, true⟩ : Exchange Action Action.Reply) ∉ t) :
    (registering target).afterAll .no t = .no ∧
      ∀ x ∈ t, ∀ d, x.request ≠ .call (.createDescriptor d) := by
  refine h.along (motive := fun g t => g = .no →
    (∀ id, (⟨.claim id, true⟩ : Exchange Action Action.Reply) ∉ t) →
    (registering target).afterAll g t = .no ∧
      ∀ x ∈ t, ∀ d, x.request ≠ .call (.createDescriptor d)) ?_ ?_ hl rfl refused
  · rintro _ rfl -
    exact ⟨rfl, nofun⟩
  rintro _ r reply t allowed ih rfl refused
  obtain ⟨still, aside⟩ := unclaimed_step allowed fun id heq =>
    refused id (by rw [← heq]; exact List.mem_cons_self)
  obtain ⟨ends, unsent⟩ := ih still fun id hx => refused id (List.mem_cons_of_mem _ hx)
  exact ⟨ends, List.forall_mem_cons.2 ⟨aside, unsent⟩⟩

/-! ### Exports that write -/

/-- What comes before an exchange that is not in the first of two parts begins with that part. -/
theorem prefix_of_append_eq {β : Type} {a b first rest : List β} {x : β}
    (h : a ++ x :: b = first ++ rest) (out : x ∉ first) : first <+: a := by
  rcases List.append_eq_append_iff.1 h with ⟨middle, rfl, heq⟩ | ⟨middle, rfl, -⟩
  · cases middle with
    | nil => simp
    | cons y middle =>
      obtain ⟨rfl, -⟩ := List.cons.inj heq
      exact absurd (List.mem_append_right _ List.mem_cons_self) out
  · exact List.prefix_append _ _

variable {series : List TimeSeries} {reply : Except Failure Unit} {later : Trace}
  {fates : List Fate} {outcomes : List (Except Failure Unit)} {result : ExportResult}

theorem Exported.run_of_write
    (h : Exported e batch (past ++ ⟨.call (.writeSeries series), reply⟩ :: later) fates outcomes
      result) :
    ∃ run, (seriesRuns (gathered fates).records)[past.calls.countP fun x => x.1.isWrite]? =
      some run ∧ series = run.map Prod.snd := by
  have written := h.written
  have own : Trace.calls (⟨.call (.writeSeries series), reply⟩ :: later) =
      (.writeSeries series, reply) :: later.calls := rfl
  rw [Trace.calls_append, List.filter_append, own, List.filter_cons_of_pos rfl] at written
  have here : (((seriesRuns (gathered fates).records).map writeOf).zip outcomes)[
      past.calls.countP fun x => x.1.isWrite]? = some (.writeSeries series, reply) := by
    rw [← written, List.countP_eq_length_filter, List.getElem?_append_right (Nat.le_refl _),
      Nat.sub_self]
    rfl
  obtain ⟨asked, -⟩ := List.getElem?_zip_eq_some.1 here
  rw [List.getElem?_map, Option.map_eq_some_iff] at asked
  obtain ⟨run, hrun, heq⟩ := asked
  exact ⟨run, hrun, (Call.writeSeries.inj heq).symm⟩

theorem Exported.course_of_write
    (h : Exported e batch (past ++ ⟨.call (.writeSeries series), reply⟩ :: later) fates outcomes
      result) :
    ∃ first, Course (e.target.candidates batch) first fates ∧ ∀ x ∈ first, x ∈ past := by
  obtain ⟨first, second, split, course, -⟩ := h.parts
  have unwritten := unwritten_of_course course
  rw [List.filter_eq_nil_iff] at unwritten
  -- the write comes after the whole course, which has none
  have out : (⟨.call (.writeSeries series), reply⟩ : Exchange Action Action.Reply) ∉
      ⟨.beginExport, true⟩ :: first := by
    intro hx
    rcases List.mem_cons.1 hx with hx | hx
    · cases hx
    · exact absurd rfl (unwritten _ (Trace.mem_calls.2 hx))
  have begun := prefix_of_append_eq split out
  exact ⟨first, course, fun x hx => begun.subset (List.mem_cons_of_mem _ hx)⟩

theorem begun_of_leads {rest : Steps (Except Failure Response)} {c : Call}
    {outcome : Except Failure Unit} (h : (e.exporter.answer request).Leads past rest)
    (made : (c, outcome) ∈ past.calls) (work : c.isClose = false) :
    ∃ batch later fates result, request = .exportBatch (some batch) ∧
      ((∃ outcomes, Exported e batch (past ++ later) fates outcomes result) ∨
        Aborted e batch (past ++ later) fates result) := by
  have exports : ∃ batch, request = .exportBatch batch := by
    refine (exports_or_apart e request).resolve_right fun quiet => ?_
    obtain ⟨_, allowed⟩ := quiet.allowed h _ (Trace.mem_calls.1 made)
    have closes : c.isClose = true := allowed
    rw [work] at closes
    cases closes
  obtain ⟨batch, rfl⟩ := exports
  -- any replies from here on bring the export to an end, where all of its ways are known
  obtain ⟨later, response, goes, -⟩ := h.exists_goes
  obtain ⟨t, result, _, heq, goes, done⟩ := goes_bind.1 goes
  obtain ⟨rfl, -⟩ := goes_pure.1 done
  rw [List.append_nil] at heq
  subst heq
  have made : (c, outcome) ∈ (past ++ later : Trace).calls := by
    rw [Trace.calls_append]
    exact List.mem_append_left _ made
  cases batch with
  | none =>
    rcases goes_exportBatch_none (e := e) goes with silent | ⟨cause, silent⟩ <;>
      rw [silent] at made <;> cases made
  | some batch =>
    rcases goes_exportBatch goes with ⟨silent, -⟩ | ⟨fates, exported⟩ | ⟨fates, aborted⟩
    · rw [silent] at made
      cases made
    · exact ⟨batch, later, fates, result, rfl, .inl exported⟩
    · exact ⟨batch, later, fates, result, rfl, .inr aborted⟩

theorem exported_of_write {next : Except Failure Unit → Steps (Except Failure Response)}
    (h : (e.exporter.answer request).Leads past (.ask (.call (.writeSeries series)) next)) :
    ∃ batch reply later fates outcomes result, request = .exportBatch (some batch) ∧
      Exported e batch (past ++ ⟨.call (.writeSeries series), reply⟩ :: later) fates outcomes
        result := by
  -- the call is in progress; whatever its outcome will be, it has been made
  have made : (Call.writeSeries series, .ok ()) ∈
      (past ++ [⟨.call (.writeSeries series), .ok ()⟩] : Trace).calls :=
    Trace.mem_calls.2 (List.mem_append_right _ List.mem_cons_self)
  obtain ⟨batch, later, fates, result, asked, begun⟩ := begun_of_leads (h.snoc (.ok ())) made rfl
  rw [List.append_assoc, List.singleton_append] at begun
  rcases begun with ⟨outcomes, exported⟩ | aborted
  · exact ⟨batch, .ok (), later, fates, outcomes, result, asked, exported⟩
  · have unwritten := aborted.unwritten
    rw [List.filter_eq_nil_iff] at unwritten
    have written : (Call.writeSeries series, .ok ()) ∈
        (past ++ ⟨.call (.writeSeries series), .ok ()⟩ :: later : Trace).calls :=
      Trace.mem_calls.2 (List.mem_append_right _ List.mem_cons_self)
    exact absurd rfl (unwritten _ written)

theorem records_sublist_of_course {cs : List Candidate} {t : Trace} (h : Course cs t fates) :
    (gathered fates).records.Sublist (cs.filterMap Candidate.record?) := by
  unfold gathered
  induction h with
  | nil => exact .slnil
  | @cons c part fate rest later fates first next ih =>
    rw [List.filterMap_cons, List.filterMap_cons]
    cases kept : fate.record? with
    | none =>
      cases c.record? with
      | none => exact ih
      | some record => exact ih.cons record
    | some record =>
      rw [record_of_passage first kept]
      exact ih.cons_cons record

/-- A record is kept where its claim was turned down, or its descriptor was accepted. -/
theorem declared_of_course {cs : List Candidate} {t : Trace} (h : Course cs t fates)
    {record : MetricRecord} (hr : record ∈ (gathered fates).records) :
    ⟨.claim record.identity, false⟩ ∈ t ∨
      ⟨.call (.createDescriptor record.descriptor), .ok ()⟩ ∈ t ∧
        ∃ remembers : Bool, ⟨.settle record.identity true, remembers⟩ ∈ t := by
  obtain ⟨fate, hf, heq⟩ := List.mem_filterMap.1 hr
  obtain ⟨c, -, own, passage, sub⟩ := passage_of_fate h hf
  cases passage with
  | nothing | untranslated | refused => cases heq
  | skipped =>
    obtain rfl := Option.some.inj heq
    exact .inl (sub _ List.mem_cons_self)
  | registered remembers =>
    obtain rfl := Option.some.inj heq
    have sent := sub _ (List.mem_cons_of_mem _ List.mem_cons_self)
    have settled := sub _ (List.mem_cons_of_mem _ (List.mem_cons_of_mem _ List.mem_cons_self))
    exact .inr ⟨sent, remembers, settled⟩

/-! ### All at once -/

/-- What has been seen to before a caller that was given these replies writes a record. -/
def SeenTo (s : Traffic (Except Failure Response)) (initial : List Identity) (past : Trace)
    (record : MetricRecord) : Strategy → Prop
  | .sendOnce => record.identity ∈ s.shared.registered ∧ (record.identity ∈ initial ∨
      ∃ c ∈ s.callers, ∃ d, d.identity = record.identity ∧
        (Call.createDescriptor d, .ok ()) ∈ c.past.calls)
  | .alwaysSend => (Call.createDescriptor record.descriptor, .ok ()) ∈ past.calls
  | .neverSend => True

theorem exists_accepted {id : Identity} {t : Trace} (h : 0 < acceptances id t) :
    ∃ d, d.identity = id ∧ (Call.createDescriptor d, .ok ()) ∈ t.calls := by
  obtain ⟨⟨c, outcome⟩, hx, accepts⟩ := List.countP_pos_iff.1 h
  rw [Bool.and_eq_true] at accepts
  obtain ⟨declares, ok⟩ := accepts
  cases c with
  | createDescriptor d =>
    cases outcome with
    | ok u => exact ⟨d, of_decide_eq_true declares, hx⟩
    | error cause => cases ok
  | writeSeries | writeSpans | close => cases declares

theorem accepted_of_settled {rest : Steps (Except Failure Response)} {id : Identity}
    (h : (e.exporter.answer request).Leads past rest) (settled : 0 < settlements id past) :
    ∃ d, d.identity = id ∧ (Call.createDescriptor d, .ok ()) ∈ past.calls := by
  rcases registers_or_apart e request with registers | quiet
  · have count := acceptances_of_leads id registers h
    have none_due : Registering.due id .no = 0 := rfl
    exact exists_accepted (by omega)
  · obtain ⟨⟨a, reply⟩, hx, settles⟩ := List.countP_pos_iff.1 settled
    obtain ⟨_, allowed⟩ := quiet.allowed h _ hx
    cases a with
    | settle => exact allowed.elim
    | _ => cases settles

theorem source_of_reaches
    (h : Reaches serves (e.exporter.traffic (.new strategy initial) requests) s) {id : Identity}
    (known : id ∈ s.shared.registered) :
    id ∈ initial ∨ ∃ c ∈ s.callers, ∃ d, d.identity = id ∧
      (Call.createDescriptor d, .ok ()) ∈ c.past.calls := by
  rcases (vouches_of_reaches h).source id known with old | ⟨i, c, hc, settled⟩
  · exact .inl old
  · obtain ⟨request, -, leads⟩ := Exporter.leads_of_reaches h hc
    exact .inr ⟨c, List.mem_of_getElem? hc, accepted_of_settled leads settled⟩

theorem seenTo_of_course
    (h : Reaches serves (e.exporter.traffic (.new strategy initial) requests) s) {i : Nat}
    {c : Caller (Except Failure Response)} (hc : s.callers[i]? = some c) {cs : List Candidate}
    {first : Trace} (course : Course cs first fates) (sub : ∀ x ∈ first, x ∈ c.past)
    {record : MetricRecord} (hr : record ∈ (gathered fates).records) :
    SeenTo s initial c.past record strategy := by
  have vouched := (vouches_of_reaches h).vouched i c hc
  have declared := declared_of_course course hr
  cases strategy with
  | neverSend => trivial
  | alwaysSend =>
    rcases declared with skipped | ⟨sent, -⟩
    · rcases vouched _ (sub _ skipped) with never | ⟨once, -⟩
      · cases never
      · cases once
    · exact Trace.mem_calls.2 (sub _ sent)
  | sendOnce =>
    have known : record.identity ∈ s.shared.registered := by
      rcases declared with skipped | ⟨-, remembers, settled⟩
      · rcases vouched _ (sub _ skipped) with never | ⟨-, known⟩
        · cases never
        · exact known
      · exact vouched _ (sub _ settled) rfl
    exact ⟨known, source_of_reaches h known⟩

theorem unsent_of_never
    (h : Reaches serves (e.exporter.traffic (.new .neverSend initial) requests) s) {i : Nat}
    {c : Caller (Except Failure Response)} (hc : s.callers[i]? = some c) (d : Descriptor) :
    Call.createDescriptor d ∉ c.calls := by
  obtain ⟨request, -, leads⟩ := Exporter.leads_of_reaches h hc
  obtain ⟨rest, past⟩ := c
  have unsent : (∀ x ∈ past, x.request ≠ .call (.createDescriptor d)) ∧
      ∀ next, rest ≠ .ask (.call (.createDescriptor d)) next := by
    rcases registers_or_apart e request with registers | quiet
    · have vouched := (vouches_of_reaches h).vouched i _ hc
      obtain ⟨still, unsent⟩ := unsent_of_leads registers leads fun id hx => vouched _ hx rfl
      refine ⟨fun x hx => unsent x hx d, ?_⟩
      rintro next rfl
      have allowed := (registers.leads leads).1
      rw [still] at allowed
      exact allowed
    · constructor
      · rintro ⟨_, reply⟩ hx rfl
        obtain ⟨_, allowed⟩ := quiet.allowed leads _ hx
        cases allowed
      · rintro next rfl
        have allowed : Call.isClose (.createDescriptor d) = true := (quiet.leads leads).1
        cases allowed
  intro hd
  rcases List.mem_append.1 hd with made | last
  · obtain ⟨⟨_, outcome⟩, hx, rfl⟩ := List.mem_map.1 made
    exact unsent.1 _ (Trace.mem_calls.1 hx) rfl
  · cases rest with
    | done result => cases last
    | ask a next =>
      cases a with
      | call call =>
        obtain rfl := List.mem_singleton.1 last
        exact unsent.2 next rfl
      | _ => cases last

/-- Any number of exports of one exporter, and whatever else it is asked at once, at a service that
answers as it likes. A write in progress is that of an export, whose records were translated and are
written in runs, one after another; and the descriptors of all of them have been seen to. Under
`sendOnce` their identities are registered, and were so in the beginning or have been accepted;
under `alwaysSend` the export itself has sent each of them. Under `neverSend` nobody ever sends a
descriptor. -/
theorem registered_before_written
    (h : Reaches serves (e.exporter.traffic (.new strategy initial) requests) s) :
    (∀ (i : Nat) (series : List TimeSeries)
      (next : Except Failure Unit → Steps (Except Failure Response)) (past : Trace),
      s.callers[i]? = some ⟨.ask (.call (.writeSeries series)) next, past⟩ →
      ∃ batch records run, requests[i]? = some (.exportBatch (some batch)) ∧
        records.Sublist (e.translated (some batch)) ∧
        (seriesRuns records)[past.calls.countP fun x => x.1.isWrite]? = some run ∧
        series = run.map Prod.snd ∧
        ∀ record ∈ records, SeenTo s initial past record strategy) ∧
    (strategy = .neverSend → ∀ c ∈ s.callers, ∀ d, Call.createDescriptor d ∉ c.calls) := by
  constructor
  · intro i series next past caller
    obtain ⟨request, asked, leads⟩ := Exporter.leads_of_reaches h caller
    obtain ⟨batch, reply, later, fates, outcomes, result, rfl, exported⟩ := exported_of_write leads
    obtain ⟨first, course, sub⟩ := exported.course_of_write
    obtain ⟨run, hrun, series_eq⟩ := exported.run_of_write
    have records := records_sublist_of_course course
    have all := goneThrough_eq_self (failsAlone_of_course course)
    rw [← all] at records
    exact ⟨batch, (gathered fates).records, run, asked, records, hrun, series_eq,
      fun record hr => seenTo_of_course h caller course sub hr⟩
  · rintro rfl c hc d
    obtain ⟨i, hi⟩ := List.getElem?_of_mem hc
    exact unsent_of_never h hi d

namespace Sample

def orders : List ResourceMetrics := [⟨some .empty, [⟨none, [gauge "orders" [3]]⟩]⟩]

end Sample

/-- Of two exports of one metric, the second waits for the first to register it, and may write. -/
theorem registered_before_written_sample :
    ∃ s series next past, Reaches (fun _ _ _ outcome => outcome = .ok ())
        (Sample.exporter.exporter.traffic (.new .sendOnce [])
          [.exportBatch (some Sample.orders), .exportBatch (some Sample.orders)]) s ∧
      s.callers[1]? = some ⟨.ask (.call (.writeSeries series)) next, past⟩ ∧
      ∃ records, records.Sublist (Sample.exporter.translated (some Sample.orders)) ∧
        records ≠ [] ∧ ∀ record ∈ records, record.identity ∈ s.shared.registered := by
  have begun : Reaches (fun _ _ _ outcome => outcome = .ok ())
      (Sample.exporter.exporter.traffic (.new .sendOnce [])
        [.exportBatch (some Sample.orders), .exportBatch (some Sample.orders)]) _ :=
    (Reaches.refl.step (@Step.answered _ _ _ _ _ 0 _ .beginExport _ false _ rfl rfl)).step
      (@Step.answered _ _ _ _ _ 1 _ .beginExport _ false _ rfl rfl)
  have claimed := begun.step (@Step.answered _ _ _ _ _ 0 _ (.claim _) _ false true rfl rfl)
  have asleep := claimed.step (@Step.asleep _ _ _ _ _ 1 _ (.claim _) _ false rfl rfl)
  have settled := (asleep.step (@Step.served _ _ _ _ 0 _ (.createDescriptor _) _ _ rfl rfl)).step
    (@Step.answered _ _ _ _ _ 0 _ (.settle _ true) _ false _ rfl rfl)
  have skipped := settled.step (@Step.answered _ _ _ _ _ 1 _ (.claim _) _ false false rfl rfl)
  obtain ⟨writes, -⟩ := registered_before_written skipped
  obtain ⟨batch, records, run, asked, part, here, -, seen⟩ := writes 1 _ _ _ rfl
  cases asked
  refine ⟨_, _, _, _, skipped, rfl, records, part, ?_, fun record hr => (seen record hr).1⟩
  rintro rfl
  cases here

end MetricExporter

end CloudTelemetry
