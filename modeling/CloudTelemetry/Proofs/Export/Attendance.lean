import CloudTelemetry.Proofs.Export.Presence
import CloudTelemetry.Proofs.Export.Traffic

/-!
# Callers at the gate

Any callers that keep to `presence`, over the gate that they share. What a caller attempts there is
a move of the gate (`Shared.moves_of_attempt`). `Attended` ties the gate to its callers: what is in
flight are the callers inside, and a shutdown was told that it is the one where the gate says so.
Once the gate is shut and nobody is inside, nobody comes in any more (`Sealed`).
-/

namespace CloudTelemetry
open Procedure

/-! ### Calls at the gate -/

def WaitingCall.action (patience : Patience) : WaitingCall → Action
  | .waitIdle => .waitIdle patience
  | .shutdown => .shutDown patience

def Sleeper.patience (s : Sleeper) : Patience := if s.timed then .limited else .unlimited

def WaitingCall.told (call : WaitingCall) (patience : Patience) :
    Option (Except Failure Bool) → GateOutcome
  | none => .asleep call (Patience.isLimited (.ok patience))
  | some (.ok result) => .returned call (Patience.isLimited (.ok patience)) result
  | some (.error cause) => .refused call cause

def Action.outcome? : (a : Action) → Option a.Reply → Option GateOutcome
  | .beginExport, some granted => some (.begun granted)
  | .endExport, some _ => some .ended
  | .waitIdle patience, reply => some (WaitingCall.waitIdle.told patience reply)
  | .shutDown patience, reply => some (WaitingCall.shutdown.told patience reply)
  | _, _ => none

theorem Action.outcome?_ne_asleep {a : Action} {call : WaitingCall} {limited : Bool}
    (reply : a.Reply) : a.outcome? (some reply) ≠ some (.asleep call limited) := by
  cases a with
  | waitIdle | shutDown => rcases reply with cause | result <;> nofun
  | beginExport | endExport | isShutdown | state | claim | settle | call | log => nofun

theorem Action.ne_action_of_outcome? {a : Action} {reply : Option a.Reply} {call : WaitingCall}
    {patience : Patience} (h : a.outcome? reply = none) : a ≠ call.action patience := by
  rintro rfl
  cases call <;> cases h

/-- The time of a shutdown is up, or it had none. -/
def Patience.RunsOut (patience : Patience) (timeUp : Bool) : Prop :=
  patience = .none ∨ patience = .limited ∧ timeUp = true

namespace Shared

variable {s after : Shared} {i : Nat} {timeUp : Bool} {call : WaitingCall} {patience : Patience}

/-- Whoever sleeps at the gate asks for what it sleeps for. -/
def Asks (s : Shared) (i : Nat) (a : Action) : Prop :=
  ∀ sleeper, s.gate.sleeper? i = some sleeper → a = sleeper.call.action sleeper.patience

theorem isLimited_patience (sleeper : Sleeper) :
    Patience.isLimited (.ok sleeper.patience) = sleeper.timed := by
  obtain ⟨call, timed, notified⟩ := sleeper
  cases timed <;> rfl

theorem eq_of_action {c : WaitingCall} {p : Patience}
    (h : call.action patience = c.action p) : call = c ∧ patience = p := by
  cases call <;> cases c <;> cases h <;> exact ⟨rfl, rfl⟩

theorem moves_of_wait {reply : Option (Except Failure Bool)}
    (asks : s.Asks i (call.action patience))
    (h : s.wait i timeUp call patience = some (reply, after)) :
    Gate.Moves s.gate i (call.told patience reply) after.gate := by
  unfold wait at h
  split at h
  · rename_i awake
    split at h <;> cases h
    all_goals
      rename_i entered
      exact Gate.moves_of_enter awake entered
  · rename_i sleeper asleep
    obtain ⟨out, left, h⟩ := Option.map_eq_some_iff.1 h
    cases h
    obtain ⟨rfl, rfl⟩ := eq_of_action (asks sleeper asleep)
    have moves := Gate.moves_of_giveUp asleep left
    rw [← isLimited_patience] at moves
    exact moves
  · rename_i sleeper asleep
    obtain ⟨out, looked, h⟩ := Option.map_eq_some_iff.1 h
    obtain ⟨rfl, rfl⟩ := eq_of_action (asks sleeper asleep)
    split at h <;> cases h
    all_goals
      have moves := Gate.moves_of_look asleep looked
      rw [← isLimited_patience] at moves
      exact moves

theorem gate_of_claim {id : Identity} {reply : Option Bool}
    (h : s.claim i id = some (reply, after)) : after.gate = s.gate := by
  unfold claim at h
  split at h
  · split at h <;> cases h <;> rfl
  · cases h

theorem moves_of_attempt {a : Action} {reply : Option a.Reply} (asks : s.Asks i a)
    (h : s.attempt i timeUp a = some (reply, after)) :
    (∃ outcome, a.outcome? reply = some outcome ∧ Gate.Moves s.gate i outcome after.gate) ∨
      a.outcome? reply = none ∧ after.gate = s.gate := by
  have awake : (∀ (c : WaitingCall) (p : Patience), a ≠ c.action p) → s.gate.sleeper? i = none := by
    intro other
    rw [Option.eq_none_iff_forall_ne_some]
    exact fun sleeper asleep => other _ _ (asks sleeper asleep)
  cases a with
  | beginExport =>
    cases h
    refine .inl ⟨_, rfl, ?_⟩
    have step : s.gate.step i .beginExport =
        some (.begun s.gate.beginExport.1, s.gate.beginExport.2) := by
      unfold Gate.step
      rw [awake fun c p => by cases c <;> nofun]
    exact Gate.moves_of_step step
  | endExport =>
    cases h
    exact .inl ⟨_, rfl, .ended (awake fun c p => by cases c <;> nofun)⟩
  | waitIdle patience =>
    have moves : Gate.Moves s.gate i (WaitingCall.waitIdle.told patience reply) after.gate :=
      moves_of_wait asks h
    exact .inl ⟨_, rfl, moves⟩
  | shutDown patience =>
    have moves : Gate.Moves s.gate i (WaitingCall.shutdown.told patience reply) after.gate :=
      moves_of_wait asks h
    exact .inl ⟨_, rfl, moves⟩
  | claim id => exact .inr ⟨rfl, gate_of_claim h⟩
  | isShutdown | state | settle | log =>
    cases h
    exact .inr ⟨rfl, rfl⟩
  | call => cases h

theorem patience_of_await {g gate : Gate} (h : g.await i call patience = (.ok .asleep, gate)) :
    patience = .limited ∨ patience = .unlimited := by
  unfold Gate.await Lifecycle.wait at h
  by_cases idle : g.lifecycle.isIdle = true
  · rw [if_pos idle] at h
    cases h
  · rw [if_neg idle] at h
    cases patience with
    | limited => exact .inl rfl
    | unlimited => exact .inr rfl
    | none | excessive => cases h

theorem asks_of_wait (asks : s.Asks i (call.action patience))
    (h : s.wait i timeUp call patience = some (none, after)) :
    after.Asks i (call.action patience) := by
  intro sleeper asleep
  have told := Gate.sleeper?_of_moves_self (moves_of_wait asks h) asleep
  obtain ⟨rfl, limited⟩ : call = sleeper.call ∧
      Patience.isLimited (.ok patience) = sleeper.timed := GateOutcome.asleep.inj told
  have sleeps : patience = .limited ∨ patience = .unlimited := by
    unfold wait at h
    split at h
    · split at h <;> cases h
      rename_i entered
      unfold Gate.enter at entered
      split at entered
      · cases entered
      · exact patience_of_await entered
    · obtain ⟨out, -, h⟩ := Option.map_eq_some_iff.1 h
      cases h
    · rename_i before slept
      obtain ⟨-, rfl⟩ := eq_of_action (asks before slept)
      unfold Sleeper.patience
      cases before.timed
      · exact .inr rfl
      · exact .inl rfl
  unfold Sleeper.patience
  rw [← limited]
  rcases sleeps with rfl | rfl <;> rfl

theorem idle_of_await {g gate : Gate} (time : patience ≠ .none)
    (h : g.await i .shutdown patience = (.ok (.returned true), gate)) :
    gate.lifecycle.inFlight = 0 := by
  unfold Gate.await Lifecycle.wait at h
  by_cases idle : g.lifecycle.isIdle = true
  · rw [if_pos idle] at h
    cases h
    exact Gate.isIdle_iff.1 idle
  · rw [if_neg idle] at h
    cases patience with
    | none => exact absurd rfl time
    | limited | unlimited | excessive => cases h

/-- A shutdown that is told that it is the one, with time left, has found the exporter idle. -/
theorem idle_of_wait (asks : s.Asks i (.shutDown patience)) (time : ¬ patience.RunsOut timeUp)
    (h : s.wait i timeUp .shutdown patience = some (some (.ok true), after)) :
    after.gate.lifecycle.inFlight = 0 := by
  unfold wait at h
  split at h
  · split at h <;> cases h
    rename_i entered
    unfold Gate.enter at entered
    split at entered
    · cases entered
    · exact idle_of_await (fun h => time (.inl h)) entered
  · rename_i sleeper asleep
    obtain ⟨out, left, h⟩ := Option.map_eq_some_iff.1 h
    unfold Gate.giveUp at left
    split at left
    · rename_i c notified timed
      have action := asks _ timed
      obtain ⟨-, rfl⟩ : WaitingCall.shutdown = c ∧ patience = .limited := eq_of_action action
      exact absurd (.inr ⟨rfl, rfl⟩) time
    · cases left
  · obtain ⟨out, looked, h⟩ := Option.map_eq_some_iff.1 h
    unfold Gate.look at looked
    split at looked
    · split at looked <;> cases looked
      · rename_i idle
        obtain ⟨-, rfl⟩ := Prod.mk.inj h
        exact Gate.isIdle_iff.1 idle
      · cases h
    · cases looked

end Shared

/-! ### Callers and the gate -/

abbrev presenceAfter (past : Trace) : Presence := presence.afterAll .outside past

theorem presenceAfter_append (past : Trace) (a : Action) (reply : a.Reply) :
    presenceAfter (past ++ [⟨a, reply⟩]) = (presenceAfter past).after a reply := by
  simp [presenceAfter, Protocol.afterAll, presence]

theorem isInside_after {g : Presence} {a : Action} (allowed : g.Allows a) (reply : a.Reply) :
    (g.after a reply).isInside +
        (if (a.outcome? (some reply)).any GateOutcome.isEnded then 1 else 0) =
      g.isInside + if (a.outcome? (some reply)).any GateOutcome.isBegun then 1 else 0 := by
  rcases allowed.cases with ⟨rfl, rfl | ⟨patience, rfl⟩ | ⟨patience, rfl⟩ | rfl⟩ |
    ⟨rfl, rfl | work⟩ | ⟨rfl, rfl⟩ | ⟨rfl, entry, rfl⟩
  · cases reply <;> rfl
  · rcases reply with cause | result <;> rfl
  · rcases reply with cause | _ | _ <;> rfl
  · rfl
  · rfl
  · rw [Presence.after_of_isWork work]
    cases a with
    | claim | settle | call | log => rfl
    | beginExport | endExport | isShutdown | waitIdle | shutDown | state => exact work.elim
  · rfl
  · rfl

theorem transitions_singleton (a : Action) (reply : a.Reply) : transitions [⟨a, reply⟩] =
    if (a.outcome? (some reply)).any GateOutcome.isShutdown then 1 else 0 := by
  cases a with
  | waitIdle => rcases reply with cause | _ | _ <;> rfl
  | shutDown => rcases reply with cause | _ | _ <;> rfl
  | beginExport | endExport | isShutdown | state | claim | settle | call | log => rfl

namespace Traffic

variable {α : Type} {serves : Nat → Trace → Call → Except Failure Unit → Prop} {s t : Traffic α}
  {shared after : Shared} {callers : List (Caller α)} {i : Nat} {past : Trace} {action : Action}
  {next : action.Reply → Steps α} {reply : action.Reply}

def inside (s : Traffic α) : Nat := (s.callers.map fun c => (presenceAfter c.past).isInside).sum

def shutdowns (s : Traffic α) : Nat := (s.callers.map fun c => transitions c.past).sum

/-- What ties callers to their gate. -/
structure Attended (s : Traffic α) : Prop where
  count : s.shared.gate.lifecycle.inFlight = s.inside
  once : s.shutdowns + s.shared.gate.pendingShutdowns ≤
    if s.shared.gate.lifecycle.isShutdown then 1 else 0
  asks : ∀ i sleeper, s.shared.gate.sleeper? i = some sleeper → ∃ action next past,
    s.callers[i]? = some ⟨.ask action next, past⟩ ∧
      action = sleeper.call.action sleeper.patience

theorem Attended.asks_of_caller (attended : s.Attended)
    (caller : s.callers[i]? = some ⟨.ask action next, past⟩) : s.shared.Asks i action := by
  intro sleeper asleep
  obtain ⟨a, next', past', h, heq⟩ := attended.asks i sleeper asleep
  rw [caller] at h
  injection h with h
  injection h with h
  injection h with h
  exact h.trans heq

theorem inside_set (shared : Shared) (caller : callers[i]? = some ⟨.ask action next, past⟩) :
    inside ⟨after, callers.set i (.goOn past action next reply)⟩ + (presenceAfter past).isInside =
      inside ⟨shared, callers⟩ + ((presenceAfter past).after action reply).isInside := by
  rw [← presenceAfter_append]
  exact sum_map_set caller _ fun c => (presenceAfter c.past).isInside

theorem shutdowns_set (shared : Shared) (caller : callers[i]? = some ⟨.ask action next, past⟩) :
    shutdowns ⟨after, callers.set i (.goOn past action next reply)⟩ =
      shutdowns ⟨shared, callers⟩ + transitions [⟨action, reply⟩] := by
  have sum := sum_map_set caller (.goOn past action next reply) fun c => transitions c.past
  have split := transitions_append past [⟨action, reply⟩]
  simp only [Caller.goOn] at sum
  simp only [Caller.goOn, shutdowns]
  omega

theorem Attended.goOn (attended : (⟨shared, callers⟩ : Traffic α).Attended)
    (caller : callers[i]? = some ⟨.ask action next, past⟩)
    (count : after.gate.lifecycle.inFlight + (presenceAfter past).isInside =
      shared.gate.lifecycle.inFlight + ((presenceAfter past).after action reply).isInside)
    (once : ∀ n, n + shared.gate.pendingShutdowns ≤
        (if shared.gate.lifecycle.isShutdown then 1 else 0) →
      n + transitions [⟨action, reply⟩] + after.gate.pendingShutdowns ≤
        if after.gate.lifecycle.isShutdown then 1 else 0)
    (asks : ∀ j sleeper, after.gate.sleeper? j = some sleeper → j ≠ i ∧
      ∃ notified, shared.gate.sleeper? j = some { sleeper with notified := notified }) :
    (⟨after, callers.set i (.goOn past action next reply)⟩ : Traffic α).Attended where
  count := by
    have before : shared.gate.lifecycle.inFlight = (inside ⟨shared, callers⟩ : Nat) :=
      attended.count
    have moved := @inside_set α after callers i past action next reply shared caller
    show after.gate.lifecycle.inFlight = _
    omega
  once := by
    rw [shutdowns_set shared caller]
    exact once _ attended.once
  asks j sleeper asleep := by
    obtain ⟨hj, notified, before⟩ := asks j sleeper asleep
    obtain ⟨a, next', past', h, heq⟩ := attended.asks j _ before
    exact ⟨a, next', past', (List.getElem?_set_ne hj.symm).trans h, heq⟩

theorem Attended.answered {timeUp : Bool}
    (attended : (⟨shared, callers⟩ : Traffic α).Attended)
    (caller : callers[i]? = some ⟨.ask action next, past⟩)
    (allowed : (presenceAfter past).Allows action)
    (attempt : shared.attempt i timeUp action = some (some reply, after)) :
    (⟨after, callers.set i (.goOn past action next reply)⟩ : Traffic α).Attended := by
  have asks : shared.Asks i action := attended.asks_of_caller caller
  have told := isInside_after allowed reply
  have transits := transitions_singleton action reply
  rcases Shared.moves_of_attempt asks attempt with ⟨outcome, heq, moves⟩ | ⟨heq, same⟩
  · -- the gate counts the outcome as the caller does
    rw [heq] at told transits
    simp only [Option.any_some] at told transits
    refine attended.goOn caller ?_ (fun n once => ?_) fun j sleeper asleep => ?_
    · have moved := Gate.inFlight_of_moves moves
      have told := congrArg (Nat.cast : Nat → Int) told
      push_cast at told
      omega
    · rw [transits]
      exact Gate.shutdowns_of_moves once moves
    · have other : j ≠ i := by
        rintro rfl
        have slept := Gate.sleeper?_of_moves_self moves asleep
        exact Action.outcome?_ne_asleep reply (heq.trans (congrArg some slept))
      exact ⟨other, Gate.sleeper?_of_moves_of_ne moves other asleep⟩
  · rw [heq] at told transits
    simp only [Option.any_none, Bool.false_eq_true, if_false, Nat.add_zero] at told transits
    refine attended.goOn caller (by rw [same, told]) (fun n once => ?_) fun j sleeper asleep => ?_
    · rw [transits, same]
      exact once
    · rw [same] at asleep
      refine ⟨?_, sleeper.notified, asleep⟩
      rintro rfl
      exact Action.ne_action_of_outcome? heq (asks sleeper asleep)

theorem Attended.of_gate (attended : (⟨shared, callers⟩ : Traffic α).Attended)
    (same : after.gate = shared.gate) : (⟨after, callers⟩ : Traffic α).Attended := by
  obtain ⟨count, once, asks⟩ := attended
  refine ⟨?_, ?_, fun j sleeper asleep => ?_⟩
  · show after.gate.lifecycle.inFlight = _
    rw [same]
    exact count
  · show _ + after.gate.pendingShutdowns ≤ if after.gate.lifecycle.isShutdown then 1 else 0
    rw [same]
    exact once
  · change after.gate.sleeper? j = some sleeper at asleep
    rw [same] at asleep
    exact asks j sleeper asleep

theorem Attended.lulled {timeUp : Bool} {call : WaitingCall} {patience : Patience}
    (attended : (⟨shared, callers⟩ : Traffic α).Attended)
    (caller : callers[i]? = some ⟨.ask action next, past⟩)
    (action_eq : action = call.action patience)
    (waits : shared.wait i timeUp call patience = some (none, after)) :
    (⟨after, callers⟩ : Traffic α).Attended := by
  have asks : shared.Asks i (call.action patience) := by
    rw [← action_eq]
    exact attended.asks_of_caller caller
  have moves := Shared.moves_of_wait asks waits
  refine ⟨?_, Gate.shutdowns_of_moves attended.once moves, fun j sleeper asleep => ?_⟩
  · have same := Gate.inFlight_of_moves moves
    simp only [WaitingCall.told, GateOutcome.isBegun, GateOutcome.isEnded, Bool.false_eq_true,
      if_false, add_zero, sub_zero] at same
    exact same.trans attended.count
  · by_cases hj : j = i
    · subst hj
      have same := Shared.asks_of_wait asks waits sleeper asleep
      exact ⟨action, next, past, caller, action_eq.trans same⟩
    · obtain ⟨notified, before⟩ := Gate.sleeper?_of_moves_of_ne moves hj asleep
      exact attended.asks j { sleeper with notified := notified } before

theorem Attended.asleep {timeUp : Bool} (attended : (⟨shared, callers⟩ : Traffic α).Attended)
    (caller : callers[i]? = some ⟨.ask action next, past⟩)
    (attempt : shared.attempt i timeUp action = some (none, after)) :
    (⟨after, callers⟩ : Traffic α).Attended := by
  cases action with
  | waitIdle patience =>
    have waits : shared.wait i timeUp .waitIdle patience = some (none, after) := attempt
    exact attended.lulled caller rfl waits
  | shutDown patience =>
    have waits : shared.wait i timeUp .shutdown patience = some (none, after) := attempt
    exact attended.lulled caller rfl waits
  | claim id => exact attended.of_gate (Shared.gate_of_claim attempt)
  | beginExport | endExport | isShutdown | state | settle | call | log => cases attempt

/-- Whatever callers do that visit the exporter, they stay tied to their gate. -/
theorem Attended.step (attended : s.Attended)
    (visits : ∀ (i : Nat) (c : Caller α), s.callers[i]? = some c → ∃ final : Presence → α → Prop,
      Obeys presence final (presenceAfter c.past) c.rest)
    (h : Step serves s t) : t.Attended := by
  cases h with
  | answered timeUp caller attempt =>
    obtain ⟨_, allowed, -⟩ := visits _ _ caller
    exact attended.answered caller allowed attempt
  | asleep timeUp caller attempt => exact attended.asleep caller attempt
  | @served shared callers i past c next outcome caller reply =>
    obtain ⟨_, allowed, -⟩ := visits _ _ caller
    have same := isInside_after allowed outcome
    refine attended.goOn caller ?_ (fun n once => once) fun j sleeper asleep => ?_
    · have same' : ((presenceAfter past).after (.call c) outcome).isInside =
        (presenceAfter past).isInside := same
      rw [same']
    · refine ⟨?_, sleeper.notified, asleep⟩
      rintro rfl
      have still : (Action.call c).outcome? (some outcome) = none := rfl
      exact Action.ne_action_of_outcome? still (attended.asks_of_caller caller sleeper asleep)

/-! ### Behind a shutdown -/

theorem Attended.shut_of_attempt {timeUp : Bool} {reply : Option action.Reply}
    (attended : (⟨shared, callers⟩ : Traffic α).Attended)
    (caller : callers[i]? = some ⟨.ask action next, past⟩)
    (attempt : shared.attempt i timeUp action = some (reply, after))
    (shut : shared.gate.lifecycle.isShutdown = true) :
    after.gate.lifecycle.isShutdown = true ∧
      (action.outcome? reply).any GateOutcome.isBegun = false := by
  rcases Shared.moves_of_attempt (attended.asks_of_caller caller) attempt with
    ⟨outcome, heq, moves⟩ | ⟨heq, same⟩
  · rw [heq]
    exact Gate.shut_of_moves shut moves
  · rw [heq, same]
    exact ⟨shut, rfl⟩

theorem Attended.shut_of_step (attended : s.Attended)
    (shut : s.shared.gate.lifecycle.isShutdown = true) (h : Step serves s t) :
    t.shared.gate.lifecycle.isShutdown = true := by
  cases h with
  | answered timeUp caller attempt => exact (attended.shut_of_attempt caller attempt shut).1
  | asleep timeUp caller attempt => exact (attended.shut_of_attempt caller attempt shut).1
  | served => exact shut

/-- The calls of a trace but for closes. -/
def work (past : Trace) : List Call := (past.calls.map Prod.fst).filter fun c => !c.isClose

/-- The gate is shut, nobody is inside, and these calls were made by each caller. -/
structure Sealed (calls : Nat → List Call) (s : Traffic α) : Prop where
  shut : s.shared.gate.lifecycle.isShutdown = true
  outside : ∀ (i : Nat) (c : Caller α), s.callers[i]? = some c → presenceAfter c.past ≠ .inside
  made : ∀ (i : Nat) (c : Caller α), s.callers[i]? = some c → work c.past = calls i

variable {calls : Nat → List Call}

theorem Sealed.goOn (closed : (⟨shared, callers⟩ : Traffic α).Sealed calls)
    (caller : callers[i]? = some ⟨.ask action next, past⟩)
    (shut : after.gate.lifecycle.isShutdown = true)
    (out : (presenceAfter past).after action reply ≠ .inside)
    (idle : work [⟨action, reply⟩] = []) :
    (⟨after, callers.set i (.goOn past action next reply)⟩ : Traffic α).Sealed calls where
  shut := shut
  outside j c hc := by
    rcases getElem?_set_cases hc with ⟨rfl, rfl⟩ | ⟨-, hc⟩
    · show presenceAfter (past ++ _) ≠ _
      rw [presenceAfter_append]
      exact out
    · exact closed.outside j c hc
  made j c hc := by
    rcases getElem?_set_cases hc with ⟨rfl, rfl⟩ | ⟨-, hc⟩
    · have before := closed.made j _ caller
      unfold work at idle before ⊢
      show ((Trace.calls (past ++ _)).map Prod.fst).filter _ = _
      rw [Trace.calls_append, List.map_append, List.filter_append, idle, List.append_nil, before]
    · exact closed.made j c hc

theorem Sealed.step (closed : s.Sealed calls) (attended : s.Attended)
    (visits : ∀ (i : Nat) (c : Caller α), s.callers[i]? = some c → ∃ final : Presence → α → Prop,
      Obeys presence final (presenceAfter c.past) c.rest)
    (h : Step serves s t) : t.Sealed calls := by
  have shut := attended.shut_of_step closed.shut h
  cases h with
  | @answered shared after callers i past action next timeUp reply caller attempt =>
    obtain ⟨_, allowed, -⟩ := visits _ _ caller
    obtain ⟨-, barred⟩ := attended.shut_of_attempt caller attempt closed.shut
    have out := closed.outside i _ caller
    refine closed.goOn caller shut (fun inside => ?_) ?_
    · -- to be inside now, the caller would have begun just now
      have told := isInside_after allowed reply
      rw [barred, inside] at told
      simp [Presence.isInside, out] at told
    · cases action with
      | call c => cases attempt
      | beginExport | endExport | isShutdown | waitIdle | shutDown | state | claim | settle | log =>
        rfl
  | asleep timeUp caller attempt => exact ⟨shut, closed.outside, closed.made⟩
  | @served shared callers i past c next outcome caller reply =>
    obtain ⟨_, allowed, -⟩ := visits _ _ caller
    rcases Presence.Allows.call_cases allowed with ⟨inside, -⟩ | ⟨-, rfl⟩
    · exact absurd inside (closed.outside i _ caller)
    · exact closed.goOn caller shut nofun rfl

end Traffic

end CloudTelemetry
