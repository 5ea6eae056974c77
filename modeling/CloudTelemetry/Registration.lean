import CloudTelemetry.Metric.Descriptor

/-!
# Registration of descriptors

A `DescriptorCache` decides whether a descriptor has to be registered before a write. Under
`sendOnce` an identity is claimed by the first export that asks for it; others that ask wait until
the claim is settled, and a claim that failed is open to the next. The steps are atomic.
-/

namespace CloudTelemetry

inductive Strategy where
  | alwaysSend
  | sendOnce
  | neverSend
deriving DecidableEq, Repr

namespace Strategy

def name : Strategy → String
  | .alwaysSend => "always_send"
  | .sendOnce => "send_once"
  | .neverSend => "never_send"

def all : List Strategy := [.alwaysSend, .sendOnce, .neverSend]

def ofName? (name : String) : Option Strategy := all.find? fun strategy => strategy.name == name

theorem ofName?_eq_some_iff {name : String} {strategy : Strategy} :
    ofName? name = some strategy ↔ name = strategy.name := by
  constructor
  · intro h
    have named : (strategy.name == name) = true :=
      List.find?_some (p := fun strategy : Strategy => strategy.name == name) h
    exact (beq_iff_eq.1 named).symm
  · rintro rfl
    cases strategy <;> rfl

end Strategy

/-- The identities that are registered, and those that an export is registering. -/
structure DescriptorCache where
  strategy : Strategy
  registered : List Identity
  pending : List Identity
deriving DecidableEq, Repr

inductive Claim where
  /-- another export holds the claim -/
  | wait
  /-- nothing has to be done -/
  | refused
  /-- the asker has to register, and under `sendOnce` holds the claim -/
  | granted (cache : DescriptorCache)
deriving DecidableEq, Repr

namespace DescriptorCache

def new (strategy : Strategy) (registered : List Identity) : DescriptorCache :=
  ⟨strategy, registered, []⟩

/-- The cache for a configured strategy; an unknown one is refused. -/
def ofStrategy (strategy : Value) (registered : List Identity) :
    Except Failure DescriptorCache :=
  match strategy with
  | .text name =>
    match Strategy.ofName? name with
    | some strategy => .ok (new strategy registered)
    | none => fails .badValue
  | _ => fails .badValue

def claim (cache : DescriptorCache) (id : Identity) : Claim :=
  match cache.strategy with
  | .alwaysSend => .granted cache
  | .neverSend => .refused
  | .sendOnce =>
    if cache.pending.contains id then .wait
    else if cache.registered.contains id then .refused
    else .granted { cache with pending := id :: cache.pending }

def remembers (cache : DescriptorCache) : Bool := cache.strategy == .sendOnce

def release (cache : DescriptorCache) (id : Identity) : DescriptorCache :=
  { cache with pending := cache.pending.filter (· != id) }

/-- A registration succeeded. Only `sendOnce` remembers it. -/
def markRegistered (cache : DescriptorCache) (id : Identity) : DescriptorCache :=
  match cache.strategy with
  | .sendOnce =>
    let cache := cache.release id
    if cache.registered.contains id then cache
    else { cache with registered := cache.registered ++ [id] }
  | _ => cache

def markFailed (cache : DescriptorCache) (id : Identity) : DescriptorCache :=
  match cache.strategy with
  | .sendOnce => cache.release id
  | _ => cache

def settle (cache : DescriptorCache) (id : Identity) (succeeded : Bool) : DescriptorCache :=
  if succeeded then cache.markRegistered id else cache.markFailed id

/-! ### What steps do to a cache -/

section
variable {cache : DescriptorCache}

theorem claim_sendOnce (once : cache.strategy = .sendOnce) (id : Identity) :
    cache.claim id =
      if id ∈ cache.pending then .wait
      else if id ∈ cache.registered then .refused
      else .granted { cache with pending := id :: cache.pending } := by
  simp only [claim, once, List.contains_iff_mem]

theorem strategy_settle (cache : DescriptorCache) (id : Identity) (succeeded : Bool) :
    (cache.settle id succeeded).strategy = cache.strategy := by
  unfold settle markRegistered markFailed release
  split <;> split <;> try rfl
  dsimp only; split <;> rfl

/-- A cache that does not remember is never changed. -/
theorem settle_of_ne_sendOnce (other : cache.strategy ≠ .sendOnce) (id : Identity)
    (succeeded : Bool) : cache.settle id succeeded = cache := by
  unfold settle markRegistered markFailed
  cases h : cache.strategy with
  | sendOnce => exact absurd h other
  | alwaysSend => simp
  | neverSend => simp

theorem mem_pending_settle (once : cache.strategy = .sendOnce) {id x : Identity}
    {succeeded : Bool} :
    x ∈ (cache.settle id succeeded).pending ↔ x ∈ cache.pending ∧ x ≠ id := by
  unfold settle markRegistered markFailed release
  simp only [once]
  split
  · split <;> simp
  · simp

theorem mem_registered_settle (once : cache.strategy = .sendOnce) {id x : Identity}
    {succeeded : Bool} :
    x ∈ (cache.settle id succeeded).registered ↔
      x ∈ cache.registered ∨ succeeded = true ∧ x = id := by
  unfold settle markRegistered markFailed release
  simp only [once]
  cases succeeded with
  | false => simp
  | true =>
    by_cases h : id ∈ cache.registered
    · simp only [if_true, List.contains_iff_mem, h, true_and]
      exact ⟨.inl, fun hx => hx.elim (fun hx => hx) fun hx => hx ▸ h⟩
    · simp [h]

end

end DescriptorCache

/-! ### Order of identities -/

namespace Identity

def le (a b : Identity) : Bool :=
  match compare a.name b.name, compare a.kind b.kind, compare a.unit b.unit with
  | .lt, _, _ => true
  | .gt, _, _ => false
  | .eq, .lt, _ => true
  | .eq, .gt, _ => false
  | .eq, .eq, unit => unit != .gt

def sort (ids : List Identity) : List Identity := ids.mergeSort le

end Identity

end CloudTelemetry
