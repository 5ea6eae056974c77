import CloudTelemetry.Lifecycle.Waiting
import CloudTelemetry.Log
import CloudTelemetry.Registration

/-!
# Waiting for a claim

A `ClaimDesk` is a descriptor cache together with the callers that sleep until a claim is settled,
of any number. Every settlement notifies all sleepers; a notified sleeper asks again and, where its
identity has been claimed once more, sleeps on. Each step is atomic.
-/

namespace CloudTelemetry

/-- A caller that sleeps until the claim of an identity is settled. -/
structure Applicant where
  id : Identity
  notified : Bool
deriving DecidableEq, Repr

structure ClaimDesk where
  cache : DescriptorCache
  waiting : Nat → Option Applicant

/-- A cache at which nobody waits. -/
instance : Coe DescriptorCache ClaimDesk := ⟨fun cache => ⟨cache, fun _ => none⟩⟩

namespace ClaimDesk

/-- A caller that sleeps asks for nothing else, and only once it is notified. -/
def mayAsk (d : ClaimDesk) (caller : Nat) (id : Identity) : Bool :=
  match d.waiting caller with
  | some sleeper => sleeper == ⟨id, true⟩
  | none => true

def place (d : ClaimDesk) (caller : Nat) (sleeper : Option Applicant) : ClaimDesk :=
  { d with waiting := fun c => if c = caller then sleeper else d.waiting c }

def ask (d : ClaimDesk) (caller : Nat) (id : Identity) : Progress × ClaimDesk :=
  match d.cache.claim id with
  | .wait => (.asleep, d.place caller (some ⟨id, false⟩))
  | .refused => (.returned false, d.place caller none)
  | .granted cache => (.returned true, { d.place caller none with cache := cache })

/-- A claim is settled one way or the other. Only a cache that remembers has sleepers to notify. -/
def settle (d : ClaimDesk) (id : Identity) (succeeded : Bool) : ClaimDesk where
  cache := d.cache.settle id succeeded
  waiting caller :=
    if d.cache.remembers then (d.waiting caller).map fun s => { s with notified := true }
    else d.waiting caller

end ClaimDesk

/-! ### Callers and the claims that they hold -/

inductive ClaimStep where
  | ask (id : Identity)
  | settle (id : Identity) (succeeded : Bool)
deriving DecidableEq, Repr

structure Claimants where
  desk : ClaimDesk
  holding : Nat → Option Identity

namespace Claimants

def start (cache : DescriptorCache) : Claimants := ⟨cache, fun _ => none⟩

def hold (s : Claimants) (caller : Nat) (claim : Option Identity) : Claimants :=
  { s with holding := fun c => if c = caller then claim else s.holding c }

/-- A caller takes a step, and what it is answered where it asks. It does not ask while it holds a
claim, and settles only the claim that it holds. -/
def step (s : Claimants) (caller : Nat) : ClaimStep → Option (Option Progress × Claimants)
  | .ask id =>
    if s.holding caller = none ∧ s.desk.mayAsk caller id then
      match s.desk.ask caller id with
      | (.returned true, desk) => some (some (.returned true), ⟨desk, (s.hold caller id).holding⟩)
      | (progress, desk) => some (some progress, { s with desk := desk })
    else none
  | .settle id succeeded =>
    if s.holding caller = some id then
      some (none, ⟨s.desk.settle id succeeded, (s.hold caller none).holding⟩)
    else none

end Claimants

structure ClaimEvent where
  caller : Nat
  step : ClaimStep
  answer : Option Progress
deriving DecidableEq, Repr

inductive Claimants.Run : Claimants → List ClaimEvent → Claimants → Prop
  | nil {s : Claimants} : Run s [] s
  | cons {s t u : Claimants} {caller : Nat} {step : ClaimStep} {answer : Option Progress}
      {later : List ClaimEvent} (first : s.step caller step = some (answer, t))
      (rest : Run t later u) : Run s (⟨caller, step, answer⟩ :: later) u

/-! ### One caller and one in the background -/

inductive CacheStep where
  | shouldRegister (id : Identity)
  | shouldRegisterInBackground (id : Identity)
  | markRegistered (id : Identity)
  | markFailed (id : Identity)
  | join

inductive CacheReply where
  | nothing
  | flag (b : Bool)
  | waiting
  | done
deriving DecidableEq, Repr

/-- A desk, and the answer to the call in the background once it is over. -/
structure CacheSession where
  desk : ClaimDesk
  background : Option Bool

namespace CacheSession

def foreground : Nat := 0

def backgroundCaller : Nat := 1

def cache (s : CacheSession) : DescriptorCache := s.desk.cache

/-- Lets the call in the background ask again, where it has been notified. -/
def settle (s : CacheSession) : CacheSession :=
  match s.desk.waiting backgroundCaller with
  | some ⟨id, true⟩ =>
    match s.desk.ask backgroundCaller id with
    | (.returned granted, desk) => ⟨desk, some granted⟩
    | (.asleep, desk) => { s with desk := desk }
  | _ => s

def report (s : CacheSession) (id : Identity) : List LogEntry :=
  if s.cache.remembers then [.descriptorRegistered id.name] else []

/-- Takes a step; a caller that has to wait in the foreground is blocked for good. A new call in
the background takes the place of the one before. -/
def step (s : CacheSession) : CacheStep → Option (CacheReply × List LogEntry × CacheSession)
  | .shouldRegister id =>
    match s.desk.ask foreground id with
    | (.returned granted, desk) => some (.flag granted, [], { s with desk := desk })
    | (.asleep, _) => none
  | .shouldRegisterInBackground id =>
    match s.desk.ask backgroundCaller id with
    | (.returned granted, desk) => some (.done, [], ⟨desk, some granted⟩)
    | (.asleep, desk) => some (.waiting, [], ⟨desk, none⟩)
  | .markRegistered id =>
    some (.nothing, s.report id, { s with desk := s.desk.settle id true }.settle)
  | .markFailed id => some (.nothing, [], { s with desk := s.desk.settle id false }.settle)
  | .join =>
    match s.background with
    | some granted => some (.flag granted, [], s)
    | none => none

end CacheSession

end CloudTelemetry
