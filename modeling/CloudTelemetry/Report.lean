import CloudTelemetry.Failure

/-!
# Reports

A `Report ε α` is a computation that tells of events of type `ε` while it works, and ends with a
result or a failure. What it told before a failure stands.
-/

namespace CloudTelemetry

structure Report (ε α : Type) where
  events : List ε
  outcome : Except Failure α

namespace Report

variable {ε δ α β : Type}

def ofExcept (outcome : Except Failure α) : Report ε α := ⟨[], outcome⟩

protected def pure (result : α) : Report ε α := ofExcept (.ok result)

protected def bind (r : Report ε α) (f : α → Report ε β) : Report ε β :=
  match r.outcome with
  | .ok result => ⟨r.events ++ (f result).events, (f result).outcome⟩
  | .error cause => ⟨r.events, .error cause⟩

instance : Monad (Report ε) where
  pure := Report.pure
  bind := Report.bind

def tell (event : ε) : Report ε Unit := ⟨[event], .ok ()⟩

def fail (cause : Failure) : Report ε α := ⟨[], .error cause⟩

def mapEvents (f : ε → δ) (r : Report ε α) : Report δ α := ⟨r.events.map f, r.outcome⟩

def recover (r : Report ε α) (f : Failure → Report ε α) : Report ε α :=
  match r.outcome with
  | .ok _ => r
  | .error cause => ⟨r.events ++ (f cause).events, (f cause).outcome⟩

/-! ### How reports end -/

@[simp] theorem outcome_pure (result : α) : (pure result : Report ε α).outcome = .ok result := rfl

@[simp] theorem outcome_ofExcept (outcome : Except Failure α) :
    (ofExcept outcome : Report ε α).outcome = outcome := rfl

@[simp] theorem outcome_tell (event : ε) : (tell event).outcome = .ok () := rfl

@[simp] theorem outcome_bind (r : Report ε α) (f : α → Report ε β) :
    (r >>= f).outcome = r.outcome >>= fun result => (f result).outcome := by
  change (Report.bind r f).outcome = _
  unfold Report.bind
  cases r.outcome <;> rfl

@[simp] theorem outcome_map (f : α → β) (r : Report ε α) :
    (f <$> r).outcome = r.outcome.map f := by
  change (Report.bind r _).outcome = _
  unfold Report.bind
  cases r.outcome <;> rfl

theorem outcome_recover_of_ok {r : Report ε α} {result : α} (f : Failure → Report ε α)
    (h : r.outcome = .ok result) : (r.recover f).outcome = .ok result := by
  unfold recover
  rw [h]
  exact h

theorem outcome_recover_of_error {r : Report ε α} {cause : Failure} (f : Failure → Report ε α)
    (h : r.outcome = .error cause) : (r.recover f).outcome = (f cause).outcome := by
  unfold recover
  rw [h]

theorem outcome_forM_cons (f : α → Report ε Unit) (a : α) (as : List α) :
    (List.forM (a :: as) f).outcome = (f a).outcome >>= fun _ => (as.forM f).outcome :=
  outcome_bind (f a) fun _ => as.forM f

theorem outcome_forM_congr {f g : α → Report ε Unit} {as : List α}
    (h : ∀ a ∈ as, (f a).outcome = (g a).outcome) :
    (as.forM f).outcome = (as.forM g).outcome := by
  induction as with
  | nil => rfl
  | cons a as ih =>
    obtain ⟨ha, has⟩ := List.forall_mem_cons.1 h
    rw [outcome_forM_cons, outcome_forM_cons, ha, ih has]

theorem outcome_forM_eq_ok_iff {f : α → Report ε Unit} {as : List α} :
    (as.forM f).outcome = .ok () ↔ ∀ a ∈ as, (f a).outcome = .ok () := by
  induction as with
  | nil => exact ⟨nofun, fun _ => rfl⟩
  | cons a as ih =>
    rw [outcome_forM_cons, List.forall_mem_cons, ← ih]
    cases (f a).outcome with
    | error => exact ⟨nofun, nofun⟩
    | ok => exact ⟨fun h => ⟨rfl, h⟩, And.right⟩

/-! ### What reports tell of -/

section
variable {P : ε → Prop} {r : Report ε α} {event : ε}

theorem mem_events_bind {f : α → Report ε β} :
    event ∈ (r >>= f).events ↔
      event ∈ r.events ∨ ∃ a, r.outcome = .ok a ∧ event ∈ (f a).events := by
  change event ∈ (Report.bind r f).events ↔ _
  unfold Report.bind
  cases r.outcome <;> simp

theorem mem_events_map {f : α → β} : event ∈ (f <$> r).events ↔ event ∈ r.events := by
  refine mem_events_bind.trans (or_iff_left ?_)
  rintro ⟨a, -, told⟩
  cases told

theorem mem_events_recover {f : Failure → Report ε α} :
    event ∈ (r.recover f).events ↔
      event ∈ r.events ∨ ∃ cause, r.outcome = .error cause ∧ event ∈ (f cause).events := by
  unfold recover
  cases r.outcome <;> simp

def Tells (P : ε → Prop) (r : Report ε α) : Prop := ∀ event ∈ r.events, P event

theorem tells_pure (result : α) : (pure result : Report ε α).Tells P := nofun

theorem tells_ofExcept (outcome : Except Failure α) : (ofExcept outcome : Report ε α).Tells P := nofun

theorem tells_fail (cause : Failure) : (fail cause : Report ε α).Tells P := nofun

theorem tells_tell (h : P event) : (tell event).Tells P :=
  fun _ told => List.mem_singleton.1 told ▸ h

theorem tells_mapEvents {f : δ → ε} (h : ∀ event, P (f event)) (r : Report δ α) :
    (r.mapEvents f).Tells P := by
  intro event told
  obtain ⟨event, -, rfl⟩ := List.mem_map.1 told
  exact h event

theorem Tells.bind {f : α → Report ε β} (h : r.Tells P) (hf : ∀ a, (f a).Tells P) :
    (r >>= f).Tells P := by
  intro event told
  rcases mem_events_bind.1 told with told | ⟨a, -, told⟩
  · exact h event told
  · exact hf a event told

theorem Tells.map {f : α → β} (h : r.Tells P) : (f <$> r).Tells P :=
  h.bind fun _ => tells_pure _

theorem Tells.recover {f : Failure → Report ε α} (h : r.Tells P) (hf : ∀ cause, (f cause).Tells P) :
    (r.recover f).Tells P := by
  intro event told
  rcases mem_events_recover.1 told with told | ⟨cause, -, told⟩
  · exact h event told
  · exact hf cause event told

end

end Report

end CloudTelemetry
