import CloudTelemetry.Proofs.Lifecycle.Gate
import CloudTelemetry.Proofs.Registration.Claims

/-!
# One caller and one in the background

A `GateSession` and a `CacheSession` serve two callers, of which one sleeps in the background where
it has to wait. Their steps are steps of two callers of a gate or of a claim desk: a session goes
from gate to gate as `Gate.Run` does (`GateSession.run_of_course`), and each step of a session of a
cache is a `Claimants.Run` (`CacheSession.run_of_step`). So what holds of runs holds of the gates
and the desks that sessions come to. This is for callers that keep order: in the background nobody
calls while it sleeps, and at a desk callers ask only while they hold no claim, and settle only what
is held.
-/

namespace CloudTelemetry

/-! ### Gates -/

namespace Gate

variable {g h k : Gate} {caller : Nat}

theorem Run.append {past later : List GateEvent} (first : Run g past h) (rest : Run h later k) :
    Run g (past ++ later) k := by
  induction first with
  | nil => exact rest
  | cons step _ ih => exact .cons step (ih rest)

theorem step_of_look {progress : Progress}
    (h : g.look caller = some (progress, k)) :
    ∃ outcome, g.step caller .look = some (outcome, k) := by
  cases asleep : g.sleeper? caller with
  | none =>
    unfold look at h
    rw [asleep] at h
    cases h
  | some sleeper =>
    unfold step
    rw [asleep]
    exact ⟨_, Option.map_eq_some_iff.2 ⟨_, h, rfl⟩⟩

theorem step_of_giveUp {result : Bool} (h : g.giveUp caller = some (result, k)) :
    ∃ call limited, g.step caller .giveUp = some (.returned call limited result, k) := by
  cases asleep : g.sleeper? caller with
  | none =>
    unfold giveUp at h
    rw [asleep] at h
    cases h
  | some sleeper =>
    unfold step
    rw [asleep]
    exact ⟨sleeper.call, sleeper.timed, Option.map_eq_some_iff.2 ⟨_, h, rfl⟩⟩

theorem step_of_enter {call : WaitingCall} {patience : Except Failure Patience}
    (awake : g.sleeper? caller = none) {progress : Except Failure Progress}
    (h : g.enter caller call patience = (progress, k)) :
    g.step caller (.enter call patience) =
      some (call.outcome (Patience.isLimited patience) progress, k) := by
  unfold step
  rw [awake]
  dsimp only
  rw [h]

end Gate

namespace GateSession
open Gate

/-- From one gate to another by steps of both callers. Whoever calls in the foreground is awake in
the end. -/
structure Leads (g k : Gate) : Prop where
  run : ∃ events, Gate.Run g events k
  awake : k.sleeper? foreground = none

variable {g h k : Gate} {move : GateMove} {outcome : GateOutcome}

namespace Leads

theorem refl (awake : g.sleeper? foreground = none) : Leads g g := ⟨⟨[], .nil⟩, awake⟩

theorem trans (first : Leads g h) (rest : Leads h k) : Leads g k := by
  obtain ⟨past, hp⟩ := first.run
  obtain ⟨later, hl⟩ := rest.run
  exact ⟨⟨past ++ later, hp.append hl⟩, rest.awake⟩

theorem of_foreground (step : g.step foreground move = some (outcome, k))
    (awake : ∀ call limited, outcome ≠ .asleep call limited) : Leads g k := by
  refine ⟨⟨[_], .cons step .nil⟩, ?_⟩
  cases asleep : k.sleeper? foreground with
  | none => rfl
  | some sleeper => exact (awake _ _ (sleeper?_of_moves_self (moves_of_step step) asleep)).elim

theorem of_background (awake : g.sleeper? foreground = none)
    (step : g.step backgroundCaller move = some (outcome, k)) : Leads g k := by
  refine ⟨⟨[_], .cons step .nil⟩, ?_⟩
  cases asleep : k.sleeper? foreground with
  | none => rfl
  | some sleeper =>
    have apart : foreground ≠ backgroundCaller := by decide
    obtain ⟨notified, before⟩ := sleeper?_of_moves_of_ne (moves_of_step step) apart asleep
    rw [awake] at before
    cases before

end Leads

variable {s t : GateSession} {gateStep : GateStep} {reply : Except Failure GateReply}

theorem leads_settle (awake : s.gate.sleeper? foreground = none) : Leads s.gate s.settle.gate := by
  unfold settle
  split
  · rename_i looked
    obtain ⟨outcome, step⟩ := step_of_look looked
    exact .of_background awake step
  · rename_i looked
    obtain ⟨outcome, step⟩ := step_of_look looked
    exact .of_background awake step
  · exact .refl awake

/-- A call in the background takes the place of the one before once that is over. -/
def MayStep (s : GateSession) : GateStep → Prop
  | .callInBackground _ _ => s.gate.sleeper? backgroundCaller = none
  | _ => True

theorem leads_of_step (awake : s.gate.sleeper? foreground = none) (may : s.MayStep gateStep)
    (h : s.step gateStep = some (reply, t)) : Leads s.gate t.gate := by
  cases gateStep with
  | beginExport =>
    cases h
    have step : s.gate.step foreground .beginExport =
        some (.begun s.gate.beginExport.1, s.gate.beginExport.2) := by
      unfold Gate.step
      rw [awake]
    exact .of_foreground step nofun
  | endExport =>
    cases h
    have step : s.gate.step foreground .endExport = some (.ended, s.gate.endExport) := by
      unfold Gate.step
      rw [awake]
    have ended : Leads s.gate s.gate.endExport := .of_foreground step nofun
    exact ended.trans (leads_settle (s := { s with gate := s.gate.endExport }) ended.awake)
  | isShutdown =>
    cases h
    exact .refl awake
  | call call seconds =>
    simp only [GateSession.step] at h
    split at h
    · rename_i entered
      cases h
      exact .of_foreground (step_of_enter awake entered) nofun
    · -- a call that sleeps gives up at once
      rename_i gate entered
      obtain ⟨⟨result, left⟩, gaveUp, same⟩ := Option.map_eq_some_iff.1 h
      cases same
      obtain ⟨call', limited, step⟩ := step_of_giveUp gaveUp
      have slept : Gate.Run s.gate [_] gate := .cons (step_of_enter awake entered) .nil
      have woken : Leads gate left := .of_foreground step nofun
      obtain ⟨later, rest⟩ := woken.run
      exact ⟨⟨_, slept.append rest⟩, woken.awake⟩
    · rename_i entered
      cases h
      exact .of_foreground (step_of_enter awake entered) nofun
  | callInBackground call seconds =>
    simp only [GateSession.step] at h
    split at h <;> rename_i entered <;> cases h <;>
      exact .of_background awake (step_of_enter may entered)
  | join =>
    simp only [GateSession.step] at h
    split at h
    · cases h
      exact .refl awake
    · obtain ⟨⟨result, left⟩, gaveUp, same⟩ := Option.map_eq_some_iff.1 h
      cases same
      obtain ⟨call, limited, step⟩ := step_of_giveUp gaveUp
      exact .of_background awake step

inductive Course : GateSession → GateSession → Prop
  | nil {s : GateSession} : Course s s
  | cons {s t u : GateSession} {gateStep : GateStep} {reply : Except Failure GateReply}
      (may : s.MayStep gateStep) (first : s.step gateStep = some (reply, t)) (rest : Course t u) :
      Course s u

theorem Course.leads (h : Course s t) (awake : s.gate.sleeper? foreground = none) :
    Leads s.gate t.gate := by
  induction h with
  | nil => exact .refl awake
  | cons may first _ ih =>
    have step := leads_of_step awake may first
    exact step.trans (ih step.awake)

/-- A session has a gate that callers can bring about. -/
theorem run_of_course (h : Course initial s) : ∃ events, Gate.Run .initial events s.gate :=
  (h.leads rfl).run

end GateSession

/-! ### Caches -/

namespace CacheSession
open Claimants

variable {s t : CacheSession} {c : Claimants} {reply : CacheReply} {log : List LogEntry}

theorem exists_step_ask {caller : Nat} {id : Identity} (free : c.holding caller = none)
    (may : c.desk.mayAsk caller id = true) :
    ∃ answer d, c.step caller (.ask id) = some (answer, d) ∧
      d.desk = (c.desk.ask caller id).2 := by
  simp only [Claimants.step, free, may, and_self, if_true]
  split <;> rename_i asked <;> exact ⟨_, _, rfl, by rw [asked]⟩

theorem run_settle (inv : c.Inv) (same : c.desk = s.desk) :
    ∃ events d, Claimants.Run c events d ∧ d.desk = s.settle.desk := by
  unfold settle
  split
  · rename_i id waiting
    rw [← same] at waiting
    have free : c.holding backgroundCaller = none := by
      cases held : c.holding backgroundCaller with
      | none => rfl
      | some other => exact nomatch (inv.awake _ other held).symm.trans waiting
    obtain ⟨answer, d, step, desk⟩ := exists_step_ask free (ClaimDesk.mayAsk_iff.2 (.inr waiting))
    refine ⟨_, d, .cons step .nil, ?_⟩
    rw [desk, same]
    split <;> rename_i asked <;> rw [asked]
  · exact ⟨[], c, .nil, same⟩

/-- Callers ask while they hold no claim and do not sleep, and settle claims that are held. -/
def MayStep (c : Claimants) : CacheStep → Prop
  | .shouldRegister _ => c.holding foreground = none ∧ c.desk.waiting foreground = none
  | .shouldRegisterInBackground _ =>
    c.holding backgroundCaller = none ∧ c.desk.waiting backgroundCaller = none
  | .markRegistered id | .markFailed id => ∃ caller, c.holding caller = some id
  | .join => True

theorem run_of_ask {caller : Nat} (id : Identity) (same : c.desk = s.desk)
    (free : c.holding caller = none) (awake : c.desk.waiting caller = none) :
    ∃ events d, Claimants.Run c events d ∧ d.desk = (s.desk.ask caller id).2 := by
  obtain ⟨answer, d, step, desk⟩ := exists_step_ask free (ClaimDesk.mayAsk_iff.2 (.inl awake))
  exact ⟨_, d, .cons step .nil, by rw [desk, same]⟩

theorem run_of_mark {caller : Nat} {id : Identity} (inv : c.Inv) (same : c.desk = s.desk)
    (held : c.holding caller = some id) (succeeded : Bool) :
    ∃ events d, Claimants.Run c events d ∧
      d.desk = ({ s with desk := s.desk.settle id succeeded } : CacheSession).settle.desk := by
  have step : c.step caller (.settle id succeeded) =
      some (none, ⟨c.desk.settle id succeeded, (c.hold caller none).holding⟩) := if_pos held
  obtain ⟨events, d, run, desk⟩ := run_settle (s := { s with desk := s.desk.settle id succeeded })
    (inv.step step) (congrArg (·.settle id succeeded) same)
  exact ⟨_, d, .cons step run, desk⟩

/-- Each step of a session is one or two steps of callers at its desk. -/
theorem run_of_step {cacheStep : CacheStep} (inv : c.Inv) (same : c.desk = s.desk)
    (may : MayStep c cacheStep) (h : s.step cacheStep = some (reply, log, t)) :
    ∃ events d, Claimants.Run c events d ∧ d.desk = t.desk := by
  cases cacheStep with
  | shouldRegister id =>
    obtain ⟨events, d, run, desk⟩ := run_of_ask id same may.1 may.2
    simp only [CacheSession.step] at h
    split at h
    · rename_i asked
      cases h
      exact ⟨events, d, run, by rw [desk, asked]⟩
    · cases h
  | shouldRegisterInBackground id =>
    obtain ⟨events, d, run, desk⟩ := run_of_ask id same may.1 may.2
    simp only [CacheSession.step] at h
    split at h <;> rename_i asked <;> cases h <;> exact ⟨events, d, run, by rw [desk, asked]⟩
  | markRegistered id =>
    obtain ⟨caller, held⟩ := may
    cases h
    exact run_of_mark inv same held true
  | markFailed id =>
    obtain ⟨caller, held⟩ := may
    cases h
    exact run_of_mark inv same held false
  | join =>
    simp only [CacheSession.step] at h
    split at h
    · cases h
      exact ⟨[], c, .nil, same⟩
    · cases h

end CacheSession

end CloudTelemetry
