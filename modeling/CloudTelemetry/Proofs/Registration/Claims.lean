import CloudTelemetry.Registration.Waiting

/-!
# Claims under `sendOnce`

`Claimants.Inv`: the pending identities are those that a caller holds, each held once, and none of
them is registered; a caller that sleeps unnotified waits for a pending identity, and one that holds
a claim is awake. Every step keeps it. What follows for runs is in `run_claims`: whom the cache
tells to register, that a failed claim goes to the first that asks again, and that whoever waits
waits for a caller that is awake.
-/

namespace CloudTelemetry

namespace ClaimDesk

variable {d : ClaimDesk}

@[simp] theorem place_waiting_self (caller : Nat) (sleeper : Option Applicant) :
    (d.place caller sleeper).waiting caller = sleeper := by
  simp [place]

theorem place_waiting_of_ne {c caller : Nat} (h : c ≠ caller) (sleeper : Option Applicant) :
    (d.place caller sleeper).waiting c = d.waiting c := by
  simp [place, h]

@[simp] theorem settle_cache (id : Identity) (succeeded : Bool) :
    (d.settle id succeeded).cache = d.cache.settle id succeeded := rfl

theorem settle_waiting (once : d.cache.strategy = .sendOnce) (id : Identity) (succeeded : Bool)
    (caller : Nat) : (d.settle id succeeded).waiting caller =
      (d.waiting caller).map fun s => { s with notified := true } := by
  simp [settle, DescriptorCache.remembers, once]

theorem mayAsk_iff {caller : Nat} {id : Identity} :
    d.mayAsk caller id = true ↔ d.waiting caller = none ∨ d.waiting caller = some ⟨id, true⟩ := by
  unfold mayAsk
  split <;> rename_i h <;> simp [h]

theorem ask_cases (once : d.cache.strategy = .sendOnce) (caller : Nat) (id : Identity) :
    id ∈ d.cache.pending ∧ d.ask caller id = (.asleep, d.place caller (some ⟨id, false⟩)) ∨
    (id ∉ d.cache.pending ∧ id ∈ d.cache.registered) ∧
      d.ask caller id = (.returned false, d.place caller none) ∨
    (id ∉ d.cache.pending ∧ id ∉ d.cache.registered) ∧ d.ask caller id = (.returned true,
      { d.place caller none with cache := { d.cache with pending := id :: d.cache.pending } }) := by
  unfold ask
  rw [DescriptorCache.claim_sendOnce once]
  by_cases hp : id ∈ d.cache.pending
  · exact .inl ⟨hp, by simp only [if_pos hp]⟩
  by_cases hr : id ∈ d.cache.registered
  · exact .inr (.inl ⟨⟨hp, hr⟩, by simp only [if_neg hp, if_pos hr]⟩)
  · exact .inr (.inr ⟨⟨hp, hr⟩, by simp only [if_neg hp, if_neg hr]⟩)

end ClaimDesk

namespace Claimants

variable {s t u : Claimants} {caller c : Nat} {id x : Identity} {answer : Option Progress}

@[simp] theorem hold_self (claim : Option Identity) :
    (s.hold caller claim).holding caller = claim := by
  simp [hold]

theorem hold_of_ne (h : c ≠ caller) (claim : Option Identity) :
    (s.hold caller claim).holding c = s.holding c := by
  simp [hold, h]

/-! ### Steps -/

theorem step_ask (once : s.desk.cache.strategy = .sendOnce)
    (h : s.step caller (.ask id) = some (answer, t)) :
    (s.holding caller = none ∧ s.desk.mayAsk caller id = true) ∧
    (id ∈ s.desk.cache.pending ∧ answer = some .asleep ∧
        t = { s with desk := s.desk.place caller (some ⟨id, false⟩) } ∨
      (id ∉ s.desk.cache.pending ∧ id ∈ s.desk.cache.registered) ∧
        answer = some (.returned false) ∧ t = { s with desk := s.desk.place caller none } ∨
      (id ∉ s.desk.cache.pending ∧ id ∉ s.desk.cache.registered) ∧
        answer = some (.returned true) ∧
        t = ⟨{ s.desk.place caller none with
            cache := { s.desk.cache with pending := id :: s.desk.cache.pending } },
          (s.hold caller id).holding⟩) := by
  simp only [step] at h
  split at h
  · rename_i may
    refine ⟨may, ?_⟩
    rcases s.desk.ask_cases once caller id with ⟨hp, ha⟩ | ⟨hp, ha⟩ | ⟨hp, ha⟩ <;>
      simp only [ha, Option.some.injEq, Prod.mk.injEq] at h <;> obtain ⟨rfl, rfl⟩ := h
    · exact .inl ⟨hp, rfl, rfl⟩
    · exact .inr (.inl ⟨hp, rfl, rfl⟩)
    · exact .inr (.inr ⟨hp, rfl, rfl⟩)
  · cases h

theorem step_settle {succeeded : Bool}
    (h : s.step caller (.settle id succeeded) = some (answer, t)) :
    s.holding caller = some id ∧ answer = none ∧
      t = ⟨s.desk.settle id succeeded, (s.hold caller none).holding⟩ := by
  simp only [step] at h
  split at h
  · rename_i held
    simp only [Option.some.injEq, Prod.mk.injEq] at h
    exact ⟨held, h.1.symm, h.2.symm⟩
  · cases h

/-! ### The invariant -/

/-- How claims, registrations and sleepers hang together (see the module's text). -/
structure Inv (s : Claimants) : Prop where
  once : s.desk.cache.strategy = .sendOnce
  pending : ∀ id, id ∈ s.desk.cache.pending ↔ ∃ c, s.holding c = some id
  unique : ∀ c d id, s.holding c = some id → s.holding d = some id → c = d
  disjoint : ∀ id ∈ s.desk.cache.pending, id ∉ s.desk.cache.registered
  asleep : ∀ c id, s.desk.waiting c = some ⟨id, false⟩ → id ∈ s.desk.cache.pending
  awake : ∀ c id, s.holding c = some id → s.desk.waiting c = none

namespace Inv

theorem start (registered : List Identity) : Inv (start (.new .sendOnce registered)) where
  once := rfl
  pending id := by simp [Claimants.start, DescriptorCache.new]
  unique c d id h := by simp [Claimants.start] at h
  disjoint id h := by simp [Claimants.start, DescriptorCache.new] at h
  asleep c id h := by simp [Claimants.start] at h
  awake c id h := by simp [Claimants.start] at h

theorem place (inv : Inv s) {sleeper : Option Applicant} (free : s.holding caller = none)
    (hs : ∀ id, sleeper = some ⟨id, false⟩ → id ∈ s.desk.cache.pending) :
    Inv { s with desk := s.desk.place caller sleeper } where
  once := inv.once
  pending := inv.pending
  unique := inv.unique
  disjoint := inv.disjoint
  asleep c id h := by
    by_cases hc : c = caller
    · subst hc
      exact hs id (by simpa using h)
    · exact inv.asleep c id (by rwa [ClaimDesk.place_waiting_of_ne hc] at h)
  awake c id h := by
    have hc : c ≠ caller := fun hc => by rw [hc] at h; exact nomatch free.symm.trans h
    simpa only [ClaimDesk.place_waiting_of_ne hc] using inv.awake c id h

theorem grant (inv : Inv s) (awake : s.desk.waiting caller = none) (free : s.holding caller = none)
    (hp : id ∉ s.desk.cache.pending) (hr : id ∉ s.desk.cache.registered) :
    Inv ⟨{ s.desk with cache := { s.desk.cache with pending := id :: s.desk.cache.pending } },
      (s.hold caller id).holding⟩ := by
  have nobody : ∀ c, s.holding c ≠ some id := fun c h => hp ((inv.pending id).2 ⟨c, h⟩)
  refine ⟨inv.once, fun x => ?_, fun c d x hc hd => ?_, fun x hx => ?_, fun c x h => ?_,
    fun c x h => ?_⟩
  · rw [List.mem_cons, inv.pending]
    constructor
    · rintro (rfl | ⟨c, h⟩)
      · exact ⟨caller, by simp⟩
      · have hc : c ≠ caller := fun hc => by rw [hc] at h; exact nomatch free.symm.trans h
        exact ⟨c, by rw [hold_of_ne hc, h]⟩
    · rintro ⟨c, h⟩
      by_cases hc : c = caller
      · subst hc
        rw [hold_self] at h
        exact .inl (Option.some.inj h).symm
      · exact .inr ⟨c, by rwa [hold_of_ne hc] at h⟩
  · by_cases h₁ : c = caller <;> by_cases h₂ : d = caller
    · rw [h₁, h₂]
    · subst h₁
      rw [hold_self] at hc
      rw [hold_of_ne h₂, ← hc] at hd
      exact absurd hd (nobody d)
    · subst h₂
      rw [hold_self] at hd
      rw [hold_of_ne h₁, ← hd] at hc
      exact absurd hc (nobody c)
    · rw [hold_of_ne h₁] at hc
      rw [hold_of_ne h₂] at hd
      exact inv.unique c d x hc hd
  · rcases List.mem_cons.1 hx with rfl | hx
    · exact hr
    · exact inv.disjoint x hx
  · exact List.mem_cons_of_mem _ (inv.asleep c x h)
  · by_cases hc : c = caller
    · rw [hc]; exact awake
    · exact inv.awake c x (by rwa [hold_of_ne hc] at h)

theorem settle (inv : Inv s) (held : s.holding caller = some id) (succeeded : Bool) :
    Inv ⟨s.desk.settle id succeeded, (s.hold caller none).holding⟩ := by
  have released : ∀ c x, (s.hold caller none).holding c = some x → c ≠ caller := by
    rintro c x h rfl
    simp at h
  refine ⟨?_, fun x => ?_, fun c d x hc hd => ?_, fun x hx => ?_, fun c x h => ?_, fun c x h => ?_⟩
  · rw [ClaimDesk.settle_cache, DescriptorCache.strategy_settle, inv.once]
  · rw [ClaimDesk.settle_cache, DescriptorCache.mem_pending_settle inv.once, inv.pending]
    constructor
    · rintro ⟨⟨c, h⟩, hx⟩
      have hc : c ≠ caller := fun hc => hx (by rw [hc, held] at h; exact (Option.some.inj h).symm)
      exact ⟨c, by rw [hold_of_ne hc, h]⟩
    · rintro ⟨c, h⟩
      have hc := released c x h
      rw [hold_of_ne hc] at h
      exact ⟨⟨c, h⟩, fun hx => hc (inv.unique c caller id (hx ▸ h) held)⟩
  · have h₁ := released c x hc
    have h₂ := released d x hd
    rw [hold_of_ne h₁] at hc
    rw [hold_of_ne h₂] at hd
    exact inv.unique c d x hc hd
  · rw [ClaimDesk.settle_cache, DescriptorCache.mem_pending_settle inv.once] at hx
    rw [ClaimDesk.settle_cache, DescriptorCache.mem_registered_settle inv.once]
    rintro (h | ⟨-, h⟩)
    · exact inv.disjoint x hx.1 h
    · exact hx.2 h
  · -- whoever slept is notified now
    rw [ClaimDesk.settle_waiting inv.once, Option.map_eq_some_iff] at h
    obtain ⟨sleeper, -, h⟩ := h
    cases h
  · have hc := released c x h
    rw [hold_of_ne hc] at h
    rw [ClaimDesk.settle_waiting inv.once, inv.awake c x h]
    rfl

theorem step {e : ClaimStep} (inv : Inv s) (h : s.step caller e = some (answer, t)) : Inv t := by
  cases e with
  | ask id =>
    obtain ⟨⟨free, -⟩, ⟨hp, -, rfl⟩ | ⟨-, -, rfl⟩ | ⟨⟨hp, hr⟩, -, rfl⟩⟩ := step_ask inv.once h
    · exact inv.place free fun x hx => by cases hx; exact hp
    · exact inv.place free fun x hx => by cases hx
    · have woken : Inv { s with desk := s.desk.place caller none } :=
        inv.place free fun x hx => by cases hx
      exact woken.grant (ClaimDesk.place_waiting_self ..) free hp hr
  | settle id succeeded =>
    obtain ⟨held, -, rfl⟩ := step_settle h
    exact inv.settle held succeeded

theorem run {events : List ClaimEvent} (inv : Inv s) (h : Run s events t) : Inv t := by
  induction h with
  | nil => exact inv
  | cons first _ ih => exact ih (inv.step first)

end Inv

/-! ### What holds over a run -/

theorem Run.keeps {P : Claimants → Prop} {K : ClaimEvent → Prop}
    (step : ∀ {s t : Claimants} {e : ClaimEvent}, Inv s → K e →
      s.step e.caller e.step = some (e.answer, t) → P s → P t)
    {events : List ClaimEvent} (h : Run s events t) (inv : Inv s) (all : ∀ e ∈ events, K e)
    (p : P s) : P t := by
  induction h with
  | nil => exact p
  | cons first _ ih =>
    rw [List.forall_mem_cons] at all
    exact ih (inv.step first) all.2 (step inv all.1 first p)

theorem registered_step {e : ClaimStep} (inv : Inv s) (h : s.step caller e = some (answer, t))
    (hx : x ∈ s.desk.cache.registered) : x ∈ t.desk.cache.registered := by
  cases e with
  | ask id =>
    obtain ⟨-, ⟨-, -, rfl⟩ | ⟨-, -, rfl⟩ | ⟨-, -, rfl⟩⟩ := step_ask inv.once h
    all_goals exact hx
  | settle id succeeded =>
    obtain ⟨-, -, rfl⟩ := step_settle h
    exact (DescriptorCache.mem_registered_settle inv.once).2 (.inl hx)

theorem registered_run {events : List ClaimEvent} (inv : Inv s) (h : Run s events t)
    (hx : x ∈ s.desk.cache.registered) : x ∈ t.desk.cache.registered :=
  h.keeps (P := fun s => x ∈ s.desk.cache.registered) (K := fun _ => True)
    (fun inv _ first hx => registered_step inv first hx) inv (fun _ _ => trivial) hx

/-- Nobody has claimed the identity, and it is not registered. -/
def Open (s : Claimants) (id : Identity) : Prop :=
  id ∉ s.desk.cache.pending ∧ id ∉ s.desk.cache.registered

theorem open_of_failure (inv : Inv s) (h : s.step caller (.settle id false) = some (answer, t)) :
    t.Open id := by
  obtain ⟨held, -, rfl⟩ := step_settle h
  refine ⟨?_, ?_⟩
  · rw [ClaimDesk.settle_cache, DescriptorCache.mem_pending_settle inv.once]
    exact fun h => h.2 rfl
  · rw [ClaimDesk.settle_cache, DescriptorCache.mem_registered_settle inv.once]
    rintro (h | ⟨h, -⟩)
    · exact inv.disjoint id ((inv.pending id).2 ⟨caller, held⟩) h
    · cases h

theorem Open.step {e : ClaimStep} (free : s.Open id) (inv : Inv s) (he : e ≠ .ask id)
    (h : s.step caller e = some (answer, t)) : t.Open id := by
  cases e with
  | ask x =>
    have hx : x ≠ id := fun hx => he (by rw [hx])
    obtain ⟨-, ⟨-, -, rfl⟩ | ⟨-, -, rfl⟩ | ⟨-, -, rfl⟩⟩ := step_ask inv.once h
    · exact free
    · exact free
    · exact ⟨fun h => (List.mem_cons.1 h).elim (fun h => hx h.symm) free.1, free.2⟩
  | settle x succeeded =>
    obtain ⟨held, -, rfl⟩ := step_settle h
    have hx : x ≠ id := fun hx => free.1 ((inv.pending id).2 ⟨_, hx ▸ held⟩)
    refine ⟨?_, ?_⟩
    · rw [ClaimDesk.settle_cache, DescriptorCache.mem_pending_settle inv.once]
      exact fun h => free.1 h.1
    · rw [ClaimDesk.settle_cache, DescriptorCache.mem_registered_settle inv.once]
      rintro (h | ⟨-, h⟩)
      · exact free.2 h
      · exact hx h.symm

theorem Open.run {events : List ClaimEvent} (free : s.Open id) (inv : Inv s)
    (quiet : ∀ e ∈ events, e.step ≠ .ask id) (h : Run s events t) : t.Open id :=
  h.keeps (P := fun s => s.Open id) (fun inv other first free => free.step inv other first)
    inv quiet free

theorem Open.ask (free : s.Open id) (inv : Inv s)
    (h : s.step caller (.ask id) = some (answer, t)) :
    answer = some (.returned true) ∧ t.holding caller = some id := by
  obtain ⟨-, ⟨hp, -⟩ | ⟨⟨-, hr⟩, -⟩ | ⟨-, ha, rfl⟩⟩ := step_ask inv.once h
  · exact absurd hp free.1
  · exact absurd hr free.2
  · exact ⟨ha, hold_self _⟩

theorem holding_step {e : ClaimStep} (inv : Inv s) (held : s.holding c = some id)
    (he : caller = c → ∀ succeeded, e ≠ .settle id succeeded)
    (h : s.step caller e = some (answer, t)) : t.holding c = some id := by
  cases e with
  | ask x =>
    obtain ⟨⟨free, -⟩, ⟨-, -, rfl⟩ | ⟨-, -, rfl⟩ | ⟨-, -, rfl⟩⟩ := step_ask inv.once h
    · exact held
    · exact held
    · have hc : c ≠ caller := fun hc => by rw [hc] at held; exact nomatch free.symm.trans held
      rw [hold_of_ne hc, held]
  | settle x succeeded =>
    obtain ⟨hx, -, rfl⟩ := step_settle h
    have hc : c ≠ caller := by
      rintro rfl
      rw [held] at hx
      exact he rfl succeeded (by rw [Option.some.inj hx])
    rw [hold_of_ne hc, held]

theorem holding_run {events : List ClaimEvent} (inv : Inv s) (held : s.holding c = some id)
    (kept : ∀ e ∈ events, e.caller = c → ∀ succeeded, e.step ≠ .settle id succeeded)
    (h : Run s events t) : t.holding c = some id :=
  h.keeps (P := fun s => s.holding c = some id)
    (fun inv other first held => holding_step inv held other first) inv kept held

theorem asleep_of_held (inv : Inv s) (held : s.holding c = some id)
    (h : s.step caller (.ask id) = some (answer, t)) : answer = some .asleep := by
  have hp := (inv.pending id).2 ⟨c, held⟩
  obtain ⟨-, ⟨-, ha, -⟩ | ⟨⟨hn, -⟩, -⟩ | ⟨⟨hn, -⟩, -⟩⟩ := step_ask inv.once h
  · exact ha
  · exact absurd hp hn
  · exact absurd hp hn

/-- A caller sleeps, and either nobody has notified it or it would sleep on. -/
def Blocked (s : Claimants) (caller : Nat) (id : Identity) : Prop :=
  ∃ notified, s.desk.waiting caller = some ⟨id, notified⟩ ∧
    (notified = false ∨ id ∈ s.desk.cache.pending)

/-- A blocked caller waits for one that is awake and can settle its claim at once. -/
theorem holder_of_blocked (inv : Inv s) (h : s.Blocked caller id) :
    ∃ c, s.holding c = some id ∧ s.desk.waiting c = none ∧
      ∀ succeeded, (s.step c (.settle id succeeded)).isSome := by
  obtain ⟨notified, hw, h⟩ := h
  have hp : id ∈ s.desk.cache.pending := by
    rcases h with rfl | hp
    · exact inv.asleep caller id hw
    · exact hp
  obtain ⟨c, held⟩ := (inv.pending id).1 hp
  exact ⟨c, held, inv.awake c id held, fun succeeded => by simp [step, held]⟩

theorem step_of_notified (inv : Inv s) (h : s.desk.waiting caller = some ⟨id, true⟩) :
    ∃ answer t, s.step caller (.ask id) = some (answer, t) := by
  have free : s.holding caller = none := by
    cases hc : s.holding caller with
    | none => rfl
    | some x => exact nomatch (inv.awake caller x hc).symm.trans h
  simp only [step, free, ClaimDesk.mayAsk_iff.2 (.inr h), and_self, if_true]
  split <;> exact ⟨_, _, rfl⟩

/-- What a failed settlement leads to: whoever slept for the identity is notified and would get the
claim, so does the first that asks, and until it settles all others sleep. -/
theorem handed_over (inv : Inv s) (h : s.step caller (.settle id false) = some (answer, t)) :
    (∀ c notified, s.desk.waiting c = some ⟨id, notified⟩ → ∃ u,
      t.step c (.ask id) = some (some (.returned true), u)) ∧
    ∀ {quiet u}, Run t quiet u → (∀ e ∈ quiet, e.step ≠ .ask id) →
      ∀ {first answer v}, u.step first (.ask id) = some (answer, v) →
        answer = some (.returned true) ∧ v.holding first = some id ∧
        ∀ {more w}, Run v more w →
          (∀ e ∈ more, e.caller = first → ∀ succeeded, e.step ≠ .settle id succeeded) →
          ∀ {other answer z}, w.step other (.ask id) = some (answer, z) →
            answer = some .asleep := by
  have next := inv.step h
  have free := open_of_failure inv h
  refine ⟨fun c notified hw => ?_, fun hq quiet first _ _ hf => ?_⟩
  · have woken : t.desk.waiting c = some ⟨id, true⟩ := by
      obtain ⟨-, -, rfl⟩ := step_settle h
      rw [ClaimDesk.settle_waiting inv.once, hw]
      rfl
    obtain ⟨answer, u, hu⟩ := step_of_notified next woken
    obtain ⟨rfl, -⟩ := free.ask next hu
    exact ⟨u, hu⟩
  · have later := next.run hq
    obtain ⟨ha, held⟩ := (free.run next quiet hq).ask later hf
    refine ⟨ha, held, fun hm kept _ _ _ ho => ?_⟩
    have last := (later.step hf).run hm
    exact asleep_of_held last (holding_run (later.step hf) held kept hm) ho

/-- Claims under `sendOnce`, in every state that callers reach from any registered identities:
the pending identities are those claimed and not yet settled, by one caller each; none is
registered, and registrations stay; a caller is told to register only what is neither pending nor
registered, and told not to only what is registered; a failed claim goes to the first that asks for
it, and the others sleep again; and whoever is blocked waits for a holder that is awake. -/
theorem run_claims (registered : List Identity) {events : List ClaimEvent} {s : Claimants}
    (run : Run (start (.new .sendOnce registered)) events s) :
    (∀ id, id ∈ s.desk.cache.pending ↔ ∃ c, s.holding c = some id) ∧
    (∀ c d id, s.holding c = some id → s.holding d = some id → c = d) ∧
    (∀ id ∈ s.desk.cache.pending, id ∉ s.desk.cache.registered) ∧
    (∀ {later t}, Run s later t → ∀ id ∈ s.desk.cache.registered, id ∈ t.desk.cache.registered) ∧
    (∀ {c id t}, s.step c (.ask id) = some (some (.returned true), t) →
      id ∉ s.desk.cache.pending ∧ id ∉ s.desk.cache.registered) ∧
    (∀ {c id t}, s.step c (.ask id) = some (some (.returned false), t) →
      id ∈ s.desk.cache.registered) ∧
    (∀ {c id answer t}, s.step c (.settle id false) = some (answer, t) →
      (∀ d notified, s.desk.waiting d = some ⟨id, notified⟩ → ∃ u,
        t.step d (.ask id) = some (some (.returned true), u)) ∧
      ∀ {quiet u}, Run t quiet u → (∀ e ∈ quiet, e.step ≠ .ask id) →
        ∀ {first answer v}, u.step first (.ask id) = some (answer, v) →
          answer = some (.returned true) ∧ v.holding first = some id ∧
          ∀ {more w}, Run v more w →
            (∀ e ∈ more, e.caller = first → ∀ succeeded, e.step ≠ .settle id succeeded) →
            ∀ {other answer z}, w.step other (.ask id) = some (answer, z) →
              answer = some .asleep) ∧
    (∀ {c id}, s.Blocked c id → ∃ d, s.holding d = some id ∧ s.desk.waiting d = none ∧
      ∀ succeeded, (s.step d (.settle id succeeded)).isSome) := by
  have inv := (Inv.start registered).run run
  refine ⟨inv.pending, inv.unique, inv.disjoint, fun h _ hx => registered_run inv h hx,
    fun h => ?_, fun h => ?_, fun h => handed_over inv h, fun h => holder_of_blocked inv h⟩
  · obtain ⟨-, ⟨-, ha, -⟩ | ⟨-, ha, -⟩ | ⟨free, -⟩⟩ := step_ask inv.once h
    · cases ha
    · cases ha
    · exact free
  · obtain ⟨-, ⟨-, ha, -⟩ | ⟨⟨-, hr⟩, -⟩ | ⟨-, ha, -⟩⟩ := step_ask inv.once h
    · cases ha
    · exact hr
    · cases ha

/-- Two callers wait for a claim that fails: either would get it next, and until then both wait for
a caller that is awake. -/
theorem run_claims_two_waiting :
    let id : Identity := ⟨"latency", "GAUGE", "ms"⟩
    ∃ s t, Run (start (.new .sendOnce []))
        [⟨0, .ask id, some (.returned true)⟩, ⟨1, .ask id, some .asleep⟩,
          ⟨2, .ask id, some .asleep⟩] s ∧
      s.step 0 (.settle id false) = some (none, t) ∧
      (∃ u, t.step 1 (.ask id) = some (some (.returned true), u)) ∧
      (∃ u, t.step 2 (.ask id) = some (some (.returned true), u)) ∧
      ∃ c, s.holding c = some id ∧ s.desk.waiting c = none := by
  intro id
  have run : Run (start (.new .sendOnce []))
      [⟨0, .ask id, some (.returned true)⟩, ⟨1, .ask id, some .asleep⟩,
        ⟨2, .ask id, some .asleep⟩] _ := .cons rfl (.cons rfl (.cons rfl .nil))
  obtain ⟨-, -, -, -, -, -, handed, blocked⟩ := run_claims [] run
  obtain ⟨c, held, awake, -⟩ := @blocked 1 id ⟨false, rfl, .inl rfl⟩
  have failed := @handed 0 id _ _ rfl
  exact ⟨_, _, run, rfl, failed.1 1 false rfl, failed.1 2 false rfl, c, held, awake⟩

end Claimants

end CloudTelemetry
