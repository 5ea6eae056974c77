import CloudTelemetry.Export.Action
import CloudTelemetry.Registration.Waiting

/-!
# Callers that share an exporter

A `Traffic` is any number of callers, each with the procedure that it still has to go through, over
what one exporter shares among them: its gate and its claim desk. Callers take steps in any order
(`Traffic.Step`). A step answers one action, or puts its caller to sleep until it may be answered. A
caller whose next action is a call has the call in progress, and the step that answers it is the
reply of the service.
-/

namespace CloudTelemetry

structure Shared where
  gate : Gate
  desk : ClaimDesk

namespace Shared

/-- A caller waits at the gate: it enters, or it sleeps there already and looks again or, where its
time is up, gives up. -/
def wait (s : Shared) (caller : Nat) (timeUp : Bool) (call : WaitingCall) (patience : Patience) :
    Option (Option (Except Failure Bool) × Shared) :=
  match s.gate.sleeper? caller, timeUp with
  | none, _ =>
    match s.gate.enter caller call (.ok patience) with
    | (.ok (.returned result), gate) => some (some (.ok result), { s with gate := gate })
    | (.ok .asleep, gate) => some (none, { s with gate := gate })
    | (.error cause, gate) => some (some (.error cause), { s with gate := gate })
  | some _, true =>
    (s.gate.giveUp caller).map fun out => (some (.ok out.1), { s with gate := out.2 })
  | some _, false =>
    (s.gate.look caller).map fun out =>
      match out with
      | (.returned result, gate) => (some (.ok result), { s with gate := gate })
      | (.asleep, gate) => (none, { s with gate := gate })

def claim (s : Shared) (caller : Nat) (id : Identity) : Option (Option Bool × Shared) :=
  if s.desk.mayAsk caller id then
    match s.desk.ask caller id with
    | (.returned claimed, desk) => some (some claimed, { s with desk := desk })
    | (.asleep, desk) => some (none, { s with desk := desk })
  else none

/-- A caller attempts an action that is no call: it is replied to, or it goes to sleep. One that
sleeps has nothing to attempt until it is notified, or its time is up. -/
def attempt (s : Shared) (caller : Nat) (timeUp : Bool) :
    (action : Action) → Option (Option action.Reply × Shared)
  | .beginExport =>
    let (begun, gate) := s.gate.beginExport
    some (some begun, { s with gate := gate })
  | .endExport => some (some (), { s with gate := s.gate.endExport })
  | .isShutdown => some (some s.gate.lifecycle.isShutdown, s)
  | .waitIdle patience => s.wait caller timeUp .waitIdle patience
  | .shutDown patience => s.wait caller timeUp .shutdown patience
  | .state => some (some s.gate.lifecycle.state, s)
  | .claim id => s.claim caller id
  | .settle id succeeded =>
    some (some s.desk.cache.remembers, { s with desk := s.desk.settle id succeeded })
  | .call _ => none
  | .log _ => some (some (), s)

end Shared

structure Caller (α : Type) where
  rest : Steps α
  past : Trace

def Caller.goOn {α : Type} (past : Trace) (action : Action) (next : action.Reply → Steps α)
    (reply : action.Reply) : Caller α :=
  ⟨next reply, past ++ [⟨action, reply⟩]⟩

structure Traffic (α : Type) where
  shared : Shared
  callers : List (Caller α)

namespace Traffic

variable {α : Type}

def start (cache : DescriptorCache) (procedures : List (Steps α)) : Traffic α :=
  ⟨⟨.initial, cache⟩, procedures.map fun p => ⟨p, []⟩⟩

/-- One caller takes one step. Which replies the service may give to a call is `serves`, which knows
the caller and what it was replied so far. -/
inductive Step (serves : Nat → Trace → Call → Except Failure Unit → Prop) :
    Traffic α → Traffic α → Prop
  | answered {shared after : Shared} {callers : List (Caller α)} {i : Nat} {past : Trace}
      {action : Action} {next : action.Reply → Steps α} (timeUp : Bool) {reply : action.Reply}
      (caller : callers[i]? = some ⟨.ask action next, past⟩)
      (attempt : shared.attempt i timeUp action = some (some reply, after)) :
      Step serves ⟨shared, callers⟩ ⟨after, callers.set i (.goOn past action next reply)⟩
  | asleep {shared after : Shared} {callers : List (Caller α)} {i : Nat} {past : Trace}
      {action : Action} {next : action.Reply → Steps α} (timeUp : Bool)
      (caller : callers[i]? = some ⟨.ask action next, past⟩)
      (attempt : shared.attempt i timeUp action = some (none, after)) :
      Step serves ⟨shared, callers⟩ ⟨after, callers⟩
  | served {shared : Shared} {callers : List (Caller α)} {i : Nat} {past : Trace} {c : Call}
      {next : Except Failure Unit → Steps α} {outcome : Except Failure Unit}
      (caller : callers[i]? = some ⟨.ask (.call c) next, past⟩)
      (reply : serves i past c outcome) :
      Step serves ⟨shared, callers⟩ ⟨shared, callers.set i (.goOn past (.call c) next outcome)⟩

inductive Reaches (serves : Nat → Trace → Call → Except Failure Unit → Prop) :
    Traffic α → Traffic α → Prop
  | refl {s : Traffic α} : Reaches serves s s
  | step {s t u : Traffic α} (before : Reaches serves s t) (last : Step serves t u) :
      Reaches serves s u

/-- Each caller has a service of its own, which knows the calls of the caller only. -/
def servedBy (services : Nat → Service) : Nat → Trace → Call → Except Failure Unit → Prop :=
  fun i past c outcome => outcome = services i (past.calls.map Prod.fst) c

end Traffic

end CloudTelemetry
