import CloudTelemetry.Lifecycle

/-!
# Waiting for an exporter to be idle

A `Gate` is a lifecycle together with the calls that sleep until it is idle, of any number of
callers. The end of the last export in flight notifies all sleepers; a notified sleeper looks
again and, where the exporter is busy once more, sleeps on. A timed sleeper may also give up. Each
step is atomic; `Gate.Run` lets any number of callers take them in any order.
-/

namespace CloudTelemetry

inductive WaitingCall where
  | waitIdle
  | shutdown
deriving DecidableEq, Repr

/-- The result of a call whose wait is over. A shutdown has happened whether or not the exporter
became idle. -/
def WaitingCall.result (idle : Bool) : WaitingCall → Bool
  | .waitIdle => idle
  | .shutdown => true

structure Sleeper where
  call : WaitingCall
  timed : Bool
  notified : Bool
deriving DecidableEq, Repr

structure Gate where
  lifecycle : Lifecycle
  sleepers : List (Nat × Sleeper)
deriving DecidableEq, Repr

inductive Progress where
  | returned (result : Bool)
  | asleep
deriving DecidableEq, Repr

namespace Gate

def initial : Gate := ⟨.initial, []⟩

def sleeper? (g : Gate) (caller : Nat) : Option Sleeper := g.sleepers.lookup caller

def awaken (g : Gate) (caller : Nat) : Gate :=
  { g with sleepers := g.sleepers.filter fun s => s.1 != caller }

def lull (g : Gate) (caller : Nat) (s : Sleeper) : Gate :=
  { g with sleepers := (caller, s) :: (g.awaken caller).sleepers }

def beginExport (g : Gate) : Bool × Gate :=
  let (begun, lifecycle) := g.lifecycle.beginExport
  (begun, { g with lifecycle := lifecycle })

/-- An export ends; when none is left in flight all sleepers are notified. -/
def endExport (g : Gate) : Gate :=
  let lifecycle := g.lifecycle.endExport
  let notify := fun (s : Nat × Sleeper) => (s.1, { s.2 with notified := true })
  ⟨lifecycle, if lifecycle.isIdle then g.sleepers.map notify else g.sleepers⟩

def await (g : Gate) (caller : Nat) (call : WaitingCall) (patience : Patience) :
    Except Failure Progress × Gate :=
  match g.lifecycle.wait patience with
  | .over idle => (.ok (.returned (call.result idle)), g)
  | .blocked timed => (.ok .asleep, g.lull caller ⟨call, timed, false⟩)
  | .refused cause => (.error cause, g)

/-- A call begins. After a shutdown both calls return at once; the first shutdown is in force even
if its wait is refused. -/
def enter (g : Gate) (caller : Nat) (call : WaitingCall) (patience : Except Failure Patience) :
    Except Failure Progress × Gate :=
  if g.lifecycle.isShutdown then (.ok (.returned false), g)
  else
    let g :=
      match call with
      | .waitIdle => g
      | .shutdown => { g with lifecycle := g.lifecycle.shutDown.2 }
    match patience with
    | .ok patience => g.await caller call patience
    | .error cause => (.error cause, g)

def look (g : Gate) (caller : Nat) : Option (Progress × Gate) :=
  match g.sleeper? caller with
  | some ⟨call, timed, true⟩ =>
    if g.lifecycle.isIdle then some (.returned (call.result true), g.awaken caller)
    else some (.asleep, g.lull caller ⟨call, timed, false⟩)
  | _ => none

/-- A timed sleeper gives up, after a last look. -/
def giveUp (g : Gate) (caller : Nat) : Option (Bool × Gate) :=
  match g.sleeper? caller with
  | some ⟨call, true, _⟩ => some (call.result g.lifecycle.isIdle, g.awaken caller)
  | _ => none

end Gate

/-! ### Any callers, in any order -/

inductive GateMove where
  | beginExport
  | endExport
  | enter (call : WaitingCall) (patience : Except Failure Patience)
  | look
  | giveUp

/-- What comes of a move. Of a call that may wait it is told whether its wait has a limit. -/
inductive GateOutcome where
  | begun (granted : Bool)
  | ended
  | asleep (call : WaitingCall) (limited : Bool)
  | returned (call : WaitingCall) (limited result : Bool)
  | refused (call : WaitingCall) (cause : Failure)

structure GateEvent where
  caller : Nat
  outcome : GateOutcome

/-- Only a wait for as long as it takes has no limit. -/
def Patience.isLimited (patience : Except Failure Patience) : Bool :=
  match patience with
  | .ok .unlimited => false
  | _ => true

def WaitingCall.outcome (call : WaitingCall) (limited : Bool) :
    Except Failure Progress → GateOutcome
  | .ok (.returned result) => .returned call limited result
  | .ok .asleep => .asleep call limited
  | .error cause => .refused call cause

namespace Gate

/-- A caller takes a step. One that sleeps looks again or gives up, and does nothing else. -/
def step (g : Gate) (caller : Nat) (move : GateMove) : Option (GateOutcome × Gate) :=
  match g.sleeper? caller, move with
  | none, .beginExport => some (.begun g.beginExport.1, g.beginExport.2)
  | none, .endExport => some (.ended, g.endExport)
  | none, .enter call patience =>
    let out := g.enter caller call patience
    some (call.outcome (Patience.isLimited patience) out.1, out.2)
  | some sleeper, .look =>
    (g.look caller).map fun out => (sleeper.call.outcome sleeper.timed (.ok out.1), out.2)
  | some sleeper, .giveUp =>
    (g.giveUp caller).map fun out => (.returned sleeper.call sleeper.timed out.1, out.2)
  | _, _ => none

inductive Run : Gate → List GateEvent → Gate → Prop
  | nil {g : Gate} : Run g [] g
  | cons {g h k : Gate} {caller : Nat} {move : GateMove} {outcome : GateOutcome}
      {later : List GateEvent} (first : g.step caller move = some (outcome, h))
      (rest : Run h later k) : Run g (⟨caller, outcome⟩ :: later) k

end Gate

/-! ### One caller and one in the background -/

inductive GateStep where
  | beginExport
  | endExport
  | isShutdown
  | call (call : WaitingCall) (seconds : Value)
  | callInBackground (call : WaitingCall) (seconds : Value)
  | join
deriving Inhabited

inductive GateReply where
  | nothing
  | flag (b : Bool)
  | waiting
  | done
deriving DecidableEq, Repr

/-- A gate, and the reply of the call in the background once it is over. A call that fails there
replies nothing. -/
structure GateSession where
  gate : Gate
  background : Option GateReply
deriving DecidableEq, Repr

namespace GateSession

def initial : GateSession := ⟨.initial, none⟩

def foreground : Nat := 0

def backgroundCaller : Nat := 1

def settle (s : GateSession) : GateSession :=
  match s.gate.look backgroundCaller with
  | some (.returned result, gate) => ⟨gate, some (.flag result)⟩
  | some (.asleep, gate) => { s with gate := gate }
  | none => s

/-- Takes a step. A call that would sleep in the foreground gives up where it is timed; nothing
else could end its sleep, so an untimed one is blocked for good. -/
def step (s : GateSession) : GateStep → Option (Except Failure GateReply × GateSession)
  | .beginExport =>
    let (begun, gate) := s.gate.beginExport
    some (.ok (.flag begun), { s with gate := gate })
  | .endExport => some (.ok .nothing, { s with gate := s.gate.endExport }.settle)
  | .isShutdown => some (.ok (.flag s.gate.lifecycle.isShutdown), s)
  | .call call seconds =>
    match s.gate.enter foreground call (Patience.ofSeconds seconds) with
    | (.ok (.returned result), gate) => some (.ok (.flag result), { s with gate := gate })
    | (.ok .asleep, gate) =>
      (gate.giveUp foreground).map fun out => (.ok (.flag out.1), { s with gate := out.2 })
    | (.error cause, gate) => some (.error cause, { s with gate := gate })
  | .callInBackground call seconds =>
    match s.gate.enter backgroundCaller call (Patience.ofSeconds seconds) with
    | (.ok (.returned result), gate) => some (.ok .done, ⟨gate, some (.flag result)⟩)
    | (.ok .asleep, gate) => some (.ok .waiting, ⟨gate, none⟩)
    | (.error _, gate) => some (.ok .done, ⟨gate, some .nothing⟩)
  | .join =>
    match s.background with
    | some reply => some (.ok reply, s)
    | none =>
      (s.gate.giveUp backgroundCaller).map fun out =>
        (.ok (.flag out.1), ⟨out.2, some (.flag out.1)⟩)

end GateSession

end CloudTelemetry
