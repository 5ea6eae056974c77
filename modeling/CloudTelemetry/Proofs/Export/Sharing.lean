import CloudTelemetry.Proofs.Export.Registering
import CloudTelemetry.Proofs.Export.Traffic
import CloudTelemetry.Proofs.Registration.Claims

/-!
# Exports that share a cache

`Traffic.Sound`: what ties the callers of an exporter to the cache that they share, when all of them
are exports. The claim that a caller holds is told by how far it has got in the registration of a
descriptor, so that the callers are `Claimants` and keep their invariant; and the cache has been
told once of everything that it has learnt. Every step keeps it (`Sound.step`).
-/

namespace CloudTelemetry
open Procedure

/-- Replies that exports are given, where some identities were registered in the beginning, and some
are now. -/
def Told (strategy : Strategy) (initial current : List Identity) :
    Exchange Action Action.Reply → Prop
  | ⟨.beginExport, begun⟩ => begun = true
  | ⟨.claim id, true⟩ => strategy = .alwaysSend ∨ strategy = .sendOnce ∧ id ∉ initial
  | ⟨.claim id, false⟩ => strategy = .neverSend ∨ strategy = .sendOnce ∧ id ∈ current
  | _ => True

theorem Told.mono {strategy : Strategy} {initial current later : List Identity}
    {x : Exchange Action Action.Reply} (h : Told strategy initial current x)
    (grows : ∀ id ∈ current, id ∈ later) : Told strategy initial later x := by
  rcases x with ⟨a, reply⟩
  cases a with
  | claim id =>
    cases reply with
    | false => exact h.imp_right fun ⟨once, known⟩ => ⟨once, grows id known⟩
    | true => exact h
  | beginExport => exact h
  | endExport | isShutdown | waitIdle | shutDown | state | settle | call | log => trivial

abbrev phase (target : MetricTarget) (past : Trace) : Registering :=
  (registering target).afterAll .no past

theorem phase_append (target : MetricTarget) (past : Trace) (a : Action) (reply : a.Reply) :
    phase target (past ++ [⟨a, reply⟩]) = (phase target past).after a reply := by
  simp [phase, Protocol.afterAll, registering]

namespace Traffic

variable {α : Type} {target : MetricTarget} {registers : String → Except Failure Unit}
  {strategy : Strategy} {initial : List Identity} {s : Traffic α} {shared after : Shared}
  {callers : List (Caller α)} {i : Nat} {past : Trace}

def claimants (target : MetricTarget) (s : Traffic α) : Claimants where
  desk := s.shared.desk
  holding i := s.callers[i]?.bind fun c => (phase target c.past).id?

abbrev registered (s : Traffic α) : List Identity := s.shared.desk.cache.registered

structure Remembers (target : MetricTarget) (registers : String → Except Failure Unit)
    (initial : List Identity) (s : Traffic α) : Prop where
  claims : (s.claimants target).Inv
  kept : ∀ id ∈ initial, id ∈ s.registered
  sound : ∀ id ∈ s.registered, id ∈ initial ∨ (registers (target.typeOf id)).isOk = true
  count : ∀ id, (s.callers.map fun c => settlements id c.past).sum =
    if id ∈ s.registered ∧ id ∉ initial then 1 else 0

/-- What ties exports to the cache that they share. -/
structure Sound (target : MetricTarget) (registers : String → Except Failure Unit)
    (strategy : Strategy) (initial : List Identity) (s : Traffic α) : Prop where
  isOpen : s.shared.gate.lifecycle.isShutdown = false
  strategy_eq : s.shared.desk.cache.strategy = strategy
  told : ∀ (i : Nat) (c : Caller α), s.callers[i]? = some c →
    ∀ x ∈ c.past, Told strategy initial s.registered x
  waits : ∀ i a, s.shared.desk.waiting i = some a →
    ∃ next past, s.callers[i]? = some ⟨.ask (.claim a.id) next, past⟩
  once : strategy = .sendOnce → s.Remembers target registers initial
  idle : strategy ≠ .sendOnce → ∀ i, s.shared.desk.waiting i = none

theorem Sound.claim_of_waiting {action : Action} {next : action.Reply → Steps α}
    (sound : s.Sound target registers strategy initial)
    (caller : s.callers[i]? = some ⟨.ask action next, past⟩) {a : Applicant}
    (asleep : s.shared.desk.waiting i = some a) : action = .claim a.id := by
  obtain ⟨_, _, hc⟩ := sound.waits i a asleep
  rw [caller] at hc
  injection hc with hc
  injection hc with hc
  injection hc

/-! ### A caller goes on -/

theorem holding_set {c : Caller α} (caller : callers[i]? = some c) (k : Caller α) :
    (claimants target ⟨after, callers.set i k⟩).holding =
      ((claimants target ⟨shared, callers⟩).hold i (phase target k.past).id?).holding := by
  funext j
  obtain ⟨hi, -⟩ := List.getElem?_eq_some_iff.1 caller
  by_cases hj : j = i
  · simp [claimants, Claimants.hold, hj, hi]
  · simp [claimants, Claimants.hold, hj, List.getElem?_set_ne (fun h => hj h.symm)]

variable {action : Action} {next : action.Reply → Steps α} {reply : action.Reply}

theorem settlements_set (caller : callers[i]? = some ⟨.ask action next, past⟩) (id : Identity) :
    ((callers.set i (.goOn past action next reply)).map fun c => settlements id c.past).sum =
      (callers.map fun c => settlements id c.past).sum + settlements id [⟨action, reply⟩] := by
  have sum := sum_map_set caller (.goOn past action next reply) fun c => settlements id c.past
  have split := settlements_append id past [⟨action, reply⟩]
  simp only [Caller.goOn] at sum
  simp only [Caller.goOn]
  omega

theorem Sound.goOn (sound : (⟨shared, callers⟩ : Traffic α).Sound target registers strategy initial)
    (caller : callers[i]? = some ⟨.ask action next, past⟩)
    (isOpen : after.gate.lifecycle.isShutdown = false)
    (strategy_eq : after.desk.cache.strategy = strategy)
    (grows : ∀ id ∈ shared.desk.cache.registered, id ∈ after.desk.cache.registered)
    (told : Told strategy initial after.desk.cache.registered ⟨action, reply⟩)
    (waits : ∀ j a, after.desk.waiting j = some a →
      j ≠ i ∧ ∃ b, shared.desk.waiting j = some b ∧ b.id = a.id)
    (once : strategy = .sendOnce → (⟨after, callers.set i (.goOn past action next reply)⟩ :
      Traffic α).Remembers target registers initial)
    (idle : strategy ≠ .sendOnce → ∀ j, after.desk.waiting j = none) :
    (⟨after, callers.set i (.goOn past action next reply)⟩ : Traffic α).Sound target registers
      strategy initial where
  isOpen := isOpen
  strategy_eq := strategy_eq
  told j c hc x hx := by
    rcases getElem?_set_cases hc with ⟨rfl, rfl⟩ | ⟨-, hc⟩
    · rcases List.mem_append.1 hx with hx | hx
      · exact (sound.told j _ caller x hx).mono grows
      · rw [List.mem_singleton] at hx
        rw [hx]
        exact told
    · exact (sound.told j c hc x hx).mono grows
  waits j a ha := by
    obtain ⟨hj, ⟨id, notified⟩, hb, rfl⟩ := waits j a ha
    obtain ⟨_, _, hc⟩ := sound.waits j _ hb
    exact ⟨_, _, (List.getElem?_set_ne hj.symm).trans hc⟩
  once := once
  idle := idle

theorem Sound.goOn_of_ne
    (sound : (⟨shared, callers⟩ : Traffic α).Sound target registers strategy initial)
    (caller : callers[i]? = some ⟨.ask action next, past⟩) (other : strategy ≠ .sendOnce)
    (isOpen : after.gate.lifecycle.isShutdown = false)
    (cache : after.desk.cache = shared.desk.cache) (idle : ∀ j, after.desk.waiting j = none)
    (told : Told strategy initial shared.desk.cache.registered ⟨action, reply⟩) :
    (⟨after, callers.set i (.goOn past action next reply)⟩ : Traffic α).Sound target registers
      strategy initial := by
  have strategy_eq : after.desk.cache.strategy = strategy := by
    rw [cache]
    exact sound.strategy_eq
  refine sound.goOn caller isOpen strategy_eq (fun id h => by rwa [cache]) (by rwa [cache])
    (fun j a ha => ?_) (fun once => absurd once other) fun _ => idle
  cases (idle j).symm.trans ha

theorem holding_eq (caller : callers[i]? = some ⟨.ask action next, past⟩) :
    (claimants target ⟨shared, callers⟩).holding i = (phase target past).id? := by
  simp [claimants, caller]

theorem claimants_set (shared : Shared) (caller : callers[i]? = some ⟨.ask action next, past⟩) :
    claimants target ⟨after, callers.set i (.goOn past action next reply)⟩ = ⟨after.desk,
      ((claimants target ⟨shared, callers⟩).hold i
        ((phase target past).after action reply).id?).holding⟩ := by
  rw [← phase_append]
  exact congrArg (Claimants.mk after.desk) (holding_set caller (.goOn past action next reply))

theorem hold_of_eq {c : Claimants} {claim : Option Identity} (h : c.holding i = claim) :
    (c.hold i claim).holding = c.holding := by
  funext j
  by_cases hj : j = i
  · rw [hj, Claimants.hold_self, h]
  · rw [Claimants.hold_of_ne hj]

theorem Remembers.goOn
    (r : (⟨shared, callers⟩ : Traffic α).Remembers target registers initial)
    (caller : callers[i]? = some ⟨.ask action next, past⟩)
    (claims : (claimants target
      ⟨after, callers.set i (.goOn past action next reply)⟩).Inv)
    (same : after.desk.cache.registered = shared.desk.cache.registered)
    (unsettled : ∀ id, settlements id [⟨action, reply⟩] = 0) :
    (⟨after, callers.set i (.goOn past action next reply)⟩ : Traffic α).Remembers target registers
      initial where
  claims := claims
  kept id h := by
    show id ∈ after.desk.cache.registered
    rw [same]
    exact r.kept id h
  sound id h := by
    have before : id ∈ shared.desk.cache.registered := by rw [← same]; exact h
    exact r.sound id before
  count id := by
    rw [settlements_set caller, unsettled, Nat.add_zero]
    show _ = if id ∈ after.desk.cache.registered ∧ id ∉ initial then 1 else 0
    rw [same]
    exact r.count id

/-! ### Steps of exports -/

theorem Sound.quiet
    (sound : (⟨shared, callers⟩ : Traffic α).Sound target registers strategy initial)
    (caller : callers[i]? = some ⟨.ask action next, past⟩) (desk : after.desk = shared.desk)
    (isOpen : after.gate.lifecycle.isShutdown = false)
    (told : Told strategy initial shared.desk.cache.registered ⟨action, reply⟩)
    (held : ((phase target past).after action reply).id? = (phase target past).id?)
    (unsettled : ∀ id, settlements id [⟨action, reply⟩] = 0)
    (other : ∀ id, action ≠ .claim id) :
    (⟨after, callers.set i (.goOn past action next reply)⟩ : Traffic α).Sound target registers
      strategy initial := by
  refine sound.goOn caller isOpen (by rw [desk]; exact sound.strategy_eq)
    (fun id h => by rw [desk]; exact h) (by rw [desk]; exact told) (fun j a ha => ?_)
    (fun once => ?_) fun h => by rw [desk]; exact sound.idle h
  · rw [desk] at ha
    refine ⟨?_, a, ha, rfl⟩
    rintro rfl
    exact other a.id (sound.claim_of_waiting caller ha)
  · have r := sound.once once
    refine r.goOn caller ?_ (by rw [desk]) unsettled
    rw [claimants_set shared caller, held, hold_of_eq (holding_eq caller), desk]
    exact r.claims

theorem claimants_step_ask {id : Identity} {b : Bool} {desk : ClaimDesk}
    {next : Bool → Steps α} (caller : callers[i]? = some ⟨.ask (.claim id) next, past⟩)
    (free : phase target past = .no) (may : shared.desk.mayAsk i id = true)
    (asked : shared.desk.ask i id = (.returned b, desk)) :
    (claimants target ⟨shared, callers⟩).step i (.ask id) = some (some (.returned b),
      claimants target ⟨{ shared with desk := desk },
        callers.set i (.goOn past (.claim id) next b)⟩) := by
  have none_held : (claimants target ⟨shared, callers⟩).holding i = none := by
    rw [holding_eq caller, free]
    rfl
  have asked' : (claimants target ⟨shared, callers⟩).desk.ask i id = (.returned b, desk) := asked
  have may' : (claimants target ⟨shared, callers⟩).desk.mayAsk i id = true := may
  rw [claimants_set shared caller, free]
  simp only [Claimants.step, none_held, may', asked', and_self, if_true]
  cases b with
  | true => rfl
  | false =>
    exact congrArg (fun holding => some (some (Progress.returned false), Claimants.mk desk holding))
      (hold_of_eq none_held).symm

/-- Where the cache does not remember, nobody waits, and the answer is the same for all. -/
theorem ask_of_ne_sendOnce (initial : List Identity) {desk after : ClaimDesk} {id : Identity}
    {progress : Progress} (other : desk.cache.strategy ≠ .sendOnce)
    (idle : ∀ j, desk.waiting j = none) (asked : desk.ask i id = (progress, after)) :
    after.cache = desk.cache ∧ (∀ j, after.waiting j = none) ∧
      ∃ b, progress = .returned b ∧ Told desk.cache.strategy initial desk.cache.registered
        ⟨.claim id, b⟩ := by
  have placed : ∀ j, (desk.place i none).waiting j = none := by
    intro j
    unfold ClaimDesk.place
    dsimp only
    split
    · rfl
    · exact idle j
  cases h : desk.cache.strategy with
  | sendOnce => exact absurd h other
  | alwaysSend =>
    simp only [ClaimDesk.ask, DescriptorCache.claim, h] at asked
    obtain ⟨rfl, rfl⟩ := Prod.mk.inj asked
    exact ⟨rfl, placed, true, rfl, .inl rfl⟩
  | neverSend =>
    simp only [ClaimDesk.ask, DescriptorCache.claim, h] at asked
    obtain ⟨rfl, rfl⟩ := Prod.mk.inj asked
    exact ⟨rfl, placed, false, rfl, .inl rfl⟩

theorem Sound.claim
    (sound : (⟨shared, callers⟩ : Traffic α).Sound target registers strategy initial)
    {id : Identity} {b : Bool} {desk : ClaimDesk} {next : Bool → Steps α}
    (caller : callers[i]? = some ⟨.ask (.claim id) next, past⟩) (free : phase target past = .no)
    (may : shared.desk.mayAsk i id = true) (asked : shared.desk.ask i id = (.returned b, desk)) :
    (⟨{ shared with desk := desk }, callers.set i (.goOn past (.claim id) next b)⟩ :
      Traffic α).Sound target registers strategy initial := by
  have unsettled : ∀ x, settlements x [⟨.claim id, b⟩] = 0 := fun x => rfl
  by_cases once : strategy = .sendOnce
  · have r := sound.once once
    have step := claimants_step_ask caller free may asked
    have claims := r.claims.step step
    have strategy_eq : shared.desk.cache.strategy = .sendOnce := sound.strategy_eq.trans once
    have waits : ∀ j a, (shared.desk.place i none).waiting j = some a →
        j ≠ i ∧ ∃ b, shared.desk.waiting j = some b ∧ b.id = a.id := by
      intro j a ha
      have hj : j ≠ i := by
        rintro rfl
        rw [ClaimDesk.place_waiting_self] at ha
        cases ha
      rw [ClaimDesk.place_waiting_of_ne hj] at ha
      exact ⟨hj, a, ha, rfl⟩
    rcases shared.desk.ask_cases strategy_eq i id with ⟨-, ha⟩ | ⟨⟨-, known⟩, ha⟩ | ⟨⟨-, new⟩, ha⟩
    · rw [asked] at ha
      cases ha
    · rw [asked] at ha
      cases ha
      exact sound.goOn caller sound.isOpen sound.strategy_eq (fun x h => h) (.inr ⟨once, known⟩)
        waits (fun _ => r.goOn caller claims rfl unsettled) fun h => absurd once h
    · rw [asked] at ha
      cases ha
      exact sound.goOn caller sound.isOpen sound.strategy_eq (fun x h => h)
        (.inr ⟨once, fun h => new (r.kept id h)⟩) waits
        (fun _ => r.goOn caller claims rfl unsettled) fun h => absurd once h
  · have other : shared.desk.cache.strategy ≠ .sendOnce := by
      rw [sound.strategy_eq]
      exact once
    obtain ⟨cache, idle, _, heq, told⟩ := ask_of_ne_sendOnce initial other
      (sound.idle once) asked
    cases heq
    rw [sound.strategy_eq] at told
    exact sound.goOn_of_ne caller once sound.isOpen cache idle told

theorem Sound.asleep
    (sound : (⟨shared, callers⟩ : Traffic α).Sound target registers strategy initial)
    {id : Identity} {desk : ClaimDesk} {next : Bool → Steps α}
    (caller : callers[i]? = some ⟨.ask (.claim id) next, past⟩) (free : phase target past = .no)
    (asked : shared.desk.ask i id = (.asleep, desk)) :
    (⟨{ shared with desk := desk }, callers⟩ : Traffic α).Sound target registers strategy
      initial := by
  have once : strategy = .sendOnce := by
    by_contra other
    rw [← sound.strategy_eq] at other
    obtain ⟨-, -, _, heq, -⟩ := ask_of_ne_sendOnce initial other
      (sound.idle (by rwa [sound.strategy_eq] at other)) asked
    cases heq
  have r := sound.once once
  have strategy_eq : shared.desk.cache.strategy = .sendOnce := sound.strategy_eq.trans once
  rcases shared.desk.ask_cases strategy_eq i id with ⟨pending, ha⟩ | ⟨-, ha⟩ | ⟨-, ha⟩ <;>
    rw [asked] at ha <;> cases ha
  refine ⟨sound.isOpen, sound.strategy_eq, sound.told, fun j a ha => ?_, fun _ => ?_,
    fun h => absurd once h⟩
  · by_cases hj : j = i
    · rw [hj, ClaimDesk.place_waiting_self] at ha
      cases ha
      exact ⟨_, _, hj ▸ caller⟩
    · rw [ClaimDesk.place_waiting_of_ne hj] at ha
      exact sound.waits j a ha
  · have none_held : (claimants target ⟨shared, callers⟩).holding i = none := by
      rw [holding_eq caller, free]
      rfl
    have claims : (claimants target ⟨⟨shared.gate, shared.desk.place i (some ⟨id, false⟩)⟩,
        callers⟩).Inv := r.claims.place none_held fun x hx => by cases hx; exact pending
    exact ⟨claims, r.kept, r.sound, r.count⟩

theorem settlements_settle (id x : Identity) (succeeded reply : Bool) :
    settlements x [⟨.settle id succeeded, reply⟩] = if succeeded = true ∧ x = id then 1 else 0 := by
  cases succeeded with
  | false => rfl
  | true =>
    by_cases h : x = id
    · simp [settlements, h]
    · have other : ¬ id = x := fun heq => h heq.symm
      simp [settlements, h, other]

theorem Remembers.settle
    (r : (⟨shared, callers⟩ : Traffic α).Remembers target registers initial)
    {id : Identity} {succeeded reply : Bool} {next : Bool → Steps α}
    (caller : callers[i]? = some ⟨.ask (.settle id succeeded) next, past⟩)
    (due : phase target past = .answered id succeeded)
    (fair : (phase target past).Fair target registers) :
    (⟨{ shared with desk := shared.desk.settle id succeeded },
      callers.set i (.goOn past (.settle id succeeded) next reply)⟩ :
      Traffic α).Remembers target registers initial := by
  have held : (claimants target ⟨shared, callers⟩).holding i = some id := by
    rw [holding_eq caller, due]
    rfl
  have new : id ∉ shared.desk.cache.registered :=
    r.claims.disjoint id ((r.claims.pending id).2 ⟨i, held⟩)
  have registered_iff : ∀ x, x ∈ (shared.desk.settle id succeeded).cache.registered ↔
      x ∈ shared.desk.cache.registered ∨ succeeded = true ∧ x = id :=
    fun x => DescriptorCache.mem_registered_settle r.claims.once
  refine ⟨?_, fun x hx => (registered_iff x).2 (.inl (r.kept x hx)), fun x hx => ?_, fun x => ?_⟩
  · rw [claimants_set shared caller, due]
    exact r.claims.settle held succeeded
  · rcases (registered_iff x).1 hx with hx | ⟨ok, rfl⟩
    · exact r.sound x hx
    · exact .inr ((fair x succeeded due).symm.trans ok)
  · rw [settlements_set caller, settlements_settle]
    show _ = if x ∈ (shared.desk.settle id succeeded).cache.registered ∧ x ∉ initial then 1 else 0
    simp only [registered_iff]
    have before := r.count x
    simp only [registered] at before
    rw [before]
    by_cases now : succeeded = true ∧ x = id
    · obtain ⟨ok, rfl⟩ := now
      have unknown : x ∉ initial := fun h => new (r.kept x h)
      simp [ok, new, unknown]
    · simp [now]

theorem Sound.settle
    (sound : (⟨shared, callers⟩ : Traffic α).Sound target registers strategy initial)
    {id : Identity} {succeeded : Bool} {next : Bool → Steps α}
    (caller : callers[i]? = some ⟨.ask (.settle id succeeded) next, past⟩)
    (due : phase target past = .answered id succeeded)
    (fair : (phase target past).Fair target registers) :
    (⟨{ shared with desk := shared.desk.settle id succeeded },
      callers.set i (.goOn past (.settle id succeeded) next shared.desk.cache.remembers)⟩ :
      Traffic α).Sound target registers strategy initial := by
  by_cases once : strategy = .sendOnce
  · have r := sound.once once
    have strategy_eq : (shared.desk.settle id succeeded).cache.strategy = strategy :=
      (DescriptorCache.strategy_settle ..).trans sound.strategy_eq
    have held : (claimants target ⟨shared, callers⟩).holding i = some id := by
      rw [holding_eq caller, due]
      rfl
    have grows : ∀ x ∈ shared.desk.cache.registered,
        x ∈ (shared.desk.settle id succeeded).cache.registered :=
      fun x hx => (DescriptorCache.mem_registered_settle r.claims.once).2 (.inl hx)
    refine sound.goOn caller sound.isOpen strategy_eq grows trivial (fun j a ha => ?_)
      (fun _ => r.settle caller due fair) fun h => absurd once h
    have woken : (shared.desk.waiting j).map (fun a => { a with notified := true }) = some a :=
      (ClaimDesk.settle_waiting r.claims.once id succeeded j).symm.trans ha
    obtain ⟨b, hb, rfl⟩ := Option.map_eq_some_iff.1 woken
    refine ⟨?_, b, hb, rfl⟩
    rintro rfl
    have awake : shared.desk.waiting j = none := r.claims.awake j id held
    rw [awake] at hb
    cases hb
  · have other : shared.desk.cache.strategy ≠ .sendOnce := by
      rwa [sound.strategy_eq]
    have same : (shared.desk.settle id succeeded).cache = shared.desk.cache :=
      DescriptorCache.settle_of_ne_sendOnce other id succeeded
    have idle : ∀ j, (shared.desk.settle id succeeded).waiting j = none := by
      intro j
      have awake : shared.desk.waiting j = none := sound.idle once j
      simp [ClaimDesk.settle, awake]
    exact sound.goOn_of_ne caller once sound.isOpen same idle trivial

/-! ### Runs of exports -/

theorem Sound.start (target : MetricTarget) (registers : String → Except Failure Unit)
    (strategy : Strategy) (initial : List Identity) (procedures : List (Steps α)) :
    (start (.new strategy initial) procedures).Sound target registers strategy initial where
  isOpen := rfl
  strategy_eq := rfl
  told i c hc x hx := by
    obtain ⟨p, -, rfl⟩ := Option.map_eq_some_iff.1 ((List.getElem?_map ..).symm.trans hc)
    cases hx
  waits i a ha := by cases ha
  idle other i := rfl
  once := by
    rintro rfl
    have unheld : (claimants target (Traffic.start (.new .sendOnce initial) procedures)).holding =
        fun _ => none := by
      funext i
      simp only [claimants, Traffic.start, List.getElem?_map]
      cases procedures[i]? <;> rfl
    refine ⟨?_, fun id h => h, fun id h => .inl h, fun id => ?_⟩
    · have inv := Claimants.Inv.start initial
      unfold Claimants.start at inv
      rwa [← unheld] at inv
    · have none_settled : ∀ c ∈ (Traffic.start (.new .sendOnce initial) procedures).callers,
          settlements id c.past = 0 := by
        intro c hc
        obtain ⟨p, -, rfl⟩ := List.mem_map.1 hc
        rfl
      have none_new : ¬ (id ∈ initial ∧ id ∉ initial) := fun h => h.2 h.1
      rw [List.map_congr_left none_settled, List.map_const', List.sum_replicate, smul_zero]
      exact (if_neg none_new).symm

variable {serves : Nat → Trace → Call → Except Failure Unit → Prop} {t : Traffic α}

theorem told_of_beginExport {timeUp : Bool} {reply : Bool} {current : List Identity}
    (isOpen : shared.gate.lifecycle.isShutdown = false)
    (attempt : shared.attempt i timeUp .beginExport = some (some reply, after)) :
    after.desk = shared.desk ∧ after.gate.lifecycle.isShutdown = false ∧
      Told strategy initial current ⟨.beginExport, reply⟩ := by
  simp only [Shared.attempt, Gate.beginExport, Lifecycle.beginExport, isOpen] at attempt
  cases attempt
  exact ⟨rfl, rfl, rfl⟩

/-- An export of which nothing but the cache is shared keeps the callers sound. -/
theorem Sound.step (sound : s.Sound target registers strategy initial)
    (keeps : ∀ (i : Nat) (c : Caller α), s.callers[i]? = some c → ∃ final : Registering → α → Prop,
      Obeys (registering target) final (phase target c.past) c.rest)
    (fair : ∀ (i : Nat) (c : Caller α), s.callers[i]? = some c →
      (phase target c.past).Fair target registers)
    (h : Step serves s t) : t.Sound target registers strategy initial := by
  cases h with
  | @answered shared after callers i past action next timeUp reply caller attempt =>
    obtain ⟨_, allowed, -⟩ := keeps i _ caller
    have held := Registering.id?_after allowed
    rcases Registering.Allows.cases allowed with ⟨entry, rfl⟩ |
      ⟨free, rfl | rfl | ⟨id, rfl⟩ | ⟨series, rfl⟩⟩ | ⟨d, -, rfl, -⟩ | ⟨id, succeeded, due, rfl⟩
    · cases attempt
      exact sound.quiet caller rfl sound.isOpen trivial (held nofun nofun _) (fun _ => rfl) nofun
    · obtain ⟨desk, isOpen, told⟩ := told_of_beginExport sound.isOpen attempt
      exact sound.quiet caller desk isOpen told (held nofun nofun _) (fun _ => rfl) nofun
    · cases attempt
      exact sound.quiet caller rfl sound.isOpen trivial (held nofun nofun _) (fun _ => rfl) nofun
    · change shared.claim i id = _ at attempt
      unfold Shared.claim at attempt
      split at attempt
      · rename_i may
        split at attempt <;> cases attempt
        rename_i asked
        exact sound.claim caller free may asked
      · cases attempt
    · cases attempt
    · cases attempt
    · cases attempt
      exact sound.settle caller due (fair i _ caller)
  | @asleep shared after callers i past action next timeUp caller attempt =>
    obtain ⟨_, allowed, -⟩ := keeps i _ caller
    rcases Registering.Allows.cases allowed with ⟨entry, rfl⟩ |
      ⟨free, rfl | rfl | ⟨id, rfl⟩ | ⟨series, rfl⟩⟩ | ⟨d, -, rfl, -⟩ | ⟨id, succeeded, -, rfl⟩
    · cases attempt
    · cases attempt
    · cases attempt
    · change shared.claim i id = _ at attempt
      unfold Shared.claim at attempt
      split at attempt
      · split at attempt <;> cases attempt
        rename_i asked
        exact sound.asleep caller free asked
      · cases attempt
    · cases attempt
    · cases attempt
    · cases attempt
  | @served shared callers i past c next outcome caller reply =>
    obtain ⟨_, allowed, -⟩ := keeps i _ caller
    exact sound.quiet caller rfl sound.isOpen trivial (Registering.id?_after allowed nofun nofun _)
      (fun _ => rfl) nofun

end Traffic

end CloudTelemetry
