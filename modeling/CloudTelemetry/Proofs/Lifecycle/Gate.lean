import CloudTelemetry.Lifecycle.Waiting
import Mathlib.Data.List.Count
import Mathlib.Data.List.Infix

/-!
# Runs at a gate

What callers can do at a gate, one after another. `Moves` has one constructor for each way of a
step, and `moves_of_step` says that there are no others; `Kept` ties a gate to the events that led
to it, and every step keeps it. `run_lifecycle` is what follows: the count of the exports in flight,
the state that is seen, the one shutdown, and that nobody sleeps on at an idle gate.
-/

namespace CloudTelemetry

namespace Gate

variable {g h k : Gate} {caller c : Nat} {s : Sleeper} {outcome : GateOutcome}

/-! ### Sleepers -/

theorem lookup_filter_of_ne (hc : c ≠ caller) (l : List (Nat × Sleeper)) :
    (l.filter fun s => s.1 != caller).lookup c = l.lookup c := by
  induction l with
  | nil => rfl
  | cons entry l ih =>
    obtain ⟨key, x⟩ := entry
    by_cases hk : key = caller
    · have other : (c == caller) = false := beq_false_of_ne hc
      simp [hk, List.lookup_cons, other, ih]
    · simp [List.lookup_cons, hk, ih]

@[simp] theorem sleeper?_awaken_self (g : Gate) (caller : Nat) :
    (g.awaken caller).sleeper? caller = none := by
  unfold sleeper? awaken
  rw [List.lookup_eq_none_iff]
  intro entry hs
  have other : entry.1 ≠ caller := by simpa using (List.mem_filter.1 hs).2
  exact bne_iff_ne.2 other.symm

theorem sleeper?_awaken_of_ne (g : Gate) (hc : c ≠ caller) :
    (g.awaken caller).sleeper? c = g.sleeper? c :=
  lookup_filter_of_ne hc g.sleepers

@[simp] theorem sleeper?_lull_self (g : Gate) (caller : Nat) (s : Sleeper) :
    (g.lull caller s).sleeper? caller = some s := by
  simp [lull, sleeper?]

theorem sleeper?_lull_of_ne (g : Gate) (hc : c ≠ caller) (s : Sleeper) :
    (g.lull caller s).sleeper? c = g.sleeper? c := by
  have other : (c == caller) = false := beq_false_of_ne hc
  rw [← sleeper?_awaken_of_ne g hc]
  simp [lull, sleeper?, List.lookup_cons, other]

theorem mem_of_sleeper? (h : g.sleeper? caller = some s) : (caller, s) ∈ g.sleepers := by
  obtain ⟨before, after, split, -⟩ := List.lookup_eq_some_iff.1 h
  rw [split]
  exact List.mem_append_right _ List.mem_cons_self

/-! ### Steps -/

def entered (g : Gate) : WaitingCall → Gate
  | .waitIdle => g
  | .shutdown => { g with lifecycle := { g.lifecycle with isShutdown := true } }

@[simp] theorem inFlight_entered (call : WaitingCall) :
    (g.entered call).lifecycle.inFlight = g.lifecycle.inFlight := by
  cases call <;> rfl

@[simp] theorem sleepers_entered (call : WaitingCall) :
    (g.entered call).sleepers = g.sleepers := by
  cases call <;> rfl

/-- The ways of a step. -/
inductive Moves (g : Gate) (caller : Nat) : GateOutcome → Gate → Prop
  | begun (awake : g.sleeper? caller = none) (isOpen : g.lifecycle.isShutdown = false) :
      Moves g caller (.begun true)
        { g with lifecycle := { g.lifecycle with inFlight := g.lifecycle.inFlight + 1 } }
  | barred (awake : g.sleeper? caller = none) (shut : g.lifecycle.isShutdown = true) :
      Moves g caller (.begun false) g
  | ended (awake : g.sleeper? caller = none) : Moves g caller .ended g.endExport
  /-- a call comes after the shutdown -/
  | late (call limited) (awake : g.sleeper? caller = none)
      (shut : g.lifecycle.isShutdown = true) :
      Moves g caller (.returned call limited false) g
  /-- a call finds the exporter idle -/
  | idle (call limited) (awake : g.sleeper? caller = none)
      (isOpen : g.lifecycle.isShutdown = false) (idle : g.lifecycle.inFlight = 0) :
      Moves g caller (.returned call limited (call.result true)) (g.entered call)
  /-- a call has no time to wait -/
  | hurried (call) (awake : g.sleeper? caller = none)
      (isOpen : g.lifecycle.isShutdown = false) (busy : g.lifecycle.inFlight ≠ 0) :
      Moves g caller (.returned call true (call.result false)) (g.entered call)
  | refused (call cause) (awake : g.sleeper? caller = none)
      (isOpen : g.lifecycle.isShutdown = false) :
      Moves g caller (.refused call cause) (g.entered call)
  | asleep (call limited) (awake : g.sleeper? caller = none)
      (isOpen : g.lifecycle.isShutdown = false) (busy : g.lifecycle.inFlight ≠ 0) :
      Moves g caller (.asleep call limited)
        ((g.entered call).lull caller ⟨call, limited, false⟩)
  /-- a notified sleeper finds the exporter idle -/
  | woken {call limited} (sleeper : g.sleeper? caller = some ⟨call, limited, true⟩)
      (idle : g.lifecycle.inFlight = 0) :
      Moves g caller (.returned call limited (call.result true)) (g.awaken caller)
  /-- a notified sleeper finds the exporter busy once more -/
  | disturbed {call limited} (sleeper : g.sleeper? caller = some ⟨call, limited, true⟩)
      (busy : g.lifecycle.inFlight ≠ 0) :
      Moves g caller (.asleep call limited) (g.lull caller ⟨call, limited, false⟩)
  | gaveUp {call notified} (sleeper : g.sleeper? caller = some ⟨call, true, notified⟩) :
      Moves g caller (.returned call true (call.result g.lifecycle.isIdle)) (g.awaken caller)

theorem beginExport_of_shut (shut : g.lifecycle.isShutdown = true) :
    g.beginExport = (false, g) := by
  simp [beginExport, Lifecycle.beginExport, shut]

theorem beginExport_of_open (isOpen : g.lifecycle.isShutdown = false) : g.beginExport = (true,
    { g with lifecycle := { g.lifecycle with inFlight := g.lifecycle.inFlight + 1 } }) := by
  simp [beginExport, Lifecycle.beginExport, isOpen]

theorem isIdle_iff {l : Lifecycle} : l.isIdle = true ↔ l.inFlight = 0 := by
  simp [Lifecycle.isIdle]

theorem moves_of_await {call : WaitingCall} {patience : Patience}
    {reply : Except Failure Progress} (awake : g.sleeper? caller = none)
    (isOpen : g.lifecycle.isShutdown = false)
    (h : (g.entered call).await caller call patience = (reply, k)) :
    Moves g caller (call.outcome (Patience.isLimited (.ok patience)) reply) k := by
  have idle_iff : (g.entered call).lifecycle.isIdle = true ↔ g.lifecycle.inFlight = 0 := by
    rw [isIdle_iff, inFlight_entered]
  unfold await Lifecycle.wait at h
  by_cases idle : g.lifecycle.inFlight = 0
  · rw [if_pos (idle_iff.2 idle)] at h
    obtain ⟨rfl, rfl⟩ := Prod.mk.inj h
    exact .idle call _ awake isOpen idle
  · rw [if_neg fun h => idle (idle_iff.1 h)] at h
    cases patience with
    | none =>
      cases h
      exact .hurried call awake isOpen idle
    | limited =>
      cases h
      exact .asleep call true awake isOpen idle
    | unlimited =>
      cases h
      exact .asleep call false awake isOpen idle
    | excessive =>
      cases h
      exact .refused call _ awake isOpen

theorem moves_of_enter {call : WaitingCall} {patience : Except Failure Patience}
    {reply : Except Failure Progress} (awake : g.sleeper? caller = none)
    (h : g.enter caller call patience = (reply, k)) :
    Moves g caller (call.outcome (Patience.isLimited patience) reply) k := by
  unfold enter at h
  cases shut : g.lifecycle.isShutdown with
  | true =>
    rw [if_pos shut] at h
    cases h
    exact .late call _ awake shut
  | false =>
    rw [if_neg (by rw [shut]; exact Bool.false_ne_true)] at h
    cases patience with
    | ok patience =>
      refine moves_of_await awake shut ?_
      cases call <;> exact h
    | error cause =>
      cases call <;> cases h
      · exact .refused .waitIdle cause awake shut
      · exact .refused .shutdown cause awake shut

theorem moves_of_look {sleeper : Sleeper} {progress : Progress}
    (asleep : g.sleeper? caller = some sleeper) (h : g.look caller = some (progress, k)) :
    Moves g caller (sleeper.call.outcome sleeper.timed (.ok progress)) k := by
  unfold look at h
  split at h
  · rename_i call timed woken
    obtain rfl := Option.some.inj (asleep.symm.trans woken)
    split at h <;> cases h
    · rename_i idle
      exact .woken woken (isIdle_iff.1 idle)
    · rename_i busy
      exact .disturbed woken fun idle => busy (isIdle_iff.2 idle)
  · cases h

theorem moves_of_giveUp {sleeper : Sleeper} {result : Bool}
    (asleep : g.sleeper? caller = some sleeper) (h : g.giveUp caller = some (result, k)) :
    Moves g caller (.returned sleeper.call sleeper.timed result) k := by
  unfold giveUp at h
  split at h
  · rename_i call notified timed
    obtain rfl := Option.some.inj (asleep.symm.trans timed)
    cases h
    exact .gaveUp timed
  · cases h

theorem moves_of_step {move : GateMove} (h : g.step caller move = some (outcome, k)) :
    Moves g caller outcome k := by
  unfold step at h
  split at h
  · rename_i awake
    cases h
    cases shut : g.lifecycle.isShutdown with
    | true =>
      rw [beginExport_of_shut shut]
      exact .barred awake shut
    | false =>
      rw [beginExport_of_open shut]
      exact .begun awake shut
  · rename_i awake
    cases h
    exact .ended awake
  · rename_i awake
    cases h
    exact moves_of_enter awake rfl
  · rename_i asleep
    obtain ⟨out, looked, h⟩ := Option.map_eq_some_iff.1 h
    cases h
    exact moves_of_look asleep looked
  · rename_i asleep
    obtain ⟨out, left, h⟩ := Option.map_eq_some_iff.1 h
    cases h
    exact moves_of_giveUp asleep left
  · cases h

/-! ### Who sleeps after a step -/

theorem sleeper?_entered (g : Gate) (call : WaitingCall) :
    (g.entered call).sleeper? c = g.sleeper? c := by
  cases call <;> rfl

theorem lookup_map_snd (f : Sleeper → Sleeper) (l : List (Nat × Sleeper)) :
    (l.map fun s => (s.1, f s.2)).lookup c = (l.lookup c).map f := by
  induction l with
  | nil => rfl
  | cons entry l ih =>
    obtain ⟨key, x⟩ := entry
    rw [List.map_cons, List.lookup_cons, List.lookup_cons, ih]
    cases c == key <;> rfl

theorem sleeper?_endExport (h : g.endExport.sleeper? c = some s) :
    ∃ notified, g.sleeper? c = some { s with notified := notified } := by
  unfold endExport sleeper? at h
  dsimp only at h
  split at h
  · rw [lookup_map_snd fun s : Sleeper => { s with notified := true }] at h
    obtain ⟨x, hx, rfl⟩ := Option.map_eq_some_iff.1 h
    exact ⟨x.notified, hx⟩
  · exact ⟨s.notified, h⟩

theorem sleeper?_of_moves_of_ne (h : Moves g caller outcome k) (hc : c ≠ caller)
    (asleep : k.sleeper? c = some s) :
    ∃ notified, g.sleeper? c = some { s with notified := notified } := by
  cases h with
  | begun | barred | late => exact ⟨_, asleep⟩
  | ended => exact sleeper?_endExport asleep
  | idle call | hurried call | refused call =>
    rw [sleeper?_entered] at asleep
    exact ⟨_, asleep⟩
  | asleep call =>
    rw [sleeper?_lull_of_ne _ hc, sleeper?_entered] at asleep
    exact ⟨_, asleep⟩
  | woken | gaveUp =>
    rw [sleeper?_awaken_of_ne _ hc] at asleep
    exact ⟨_, asleep⟩
  | disturbed =>
    rw [sleeper?_lull_of_ne _ hc] at asleep
    exact ⟨_, asleep⟩

theorem sleeper?_of_moves_self (h : Moves g caller outcome k)
    (asleep : k.sleeper? caller = some s) : outcome = .asleep s.call s.timed := by
  cases h with
  | begun awake | barred awake | late _ _ awake => cases awake.symm.trans asleep
  | ended awake =>
    obtain ⟨_, before⟩ := sleeper?_endExport asleep
    cases awake.symm.trans before
  | idle _ _ awake | hurried _ awake | refused _ _ awake =>
    rw [sleeper?_entered] at asleep
    cases awake.symm.trans asleep
  | asleep call | disturbed =>
    rw [sleeper?_lull_self] at asleep
    cases asleep
    rfl
  | woken | gaveUp =>
    rw [sleeper?_awaken_self] at asleep
    cases asleep

end Gate

/-! ### What has happened -/

namespace GateOutcome

def isBegun : GateOutcome → Bool
  | .begun granted => granted
  | _ => false

def isEnded : GateOutcome → Bool
  | .ended => true
  | _ => false

def isOfShutdown : GateOutcome → Bool
  | .asleep call _ | .returned call _ _ | .refused call _ => call == .shutdown
  | _ => false

def isShutdown : GateOutcome → Bool
  | .returned .shutdown _ result => result
  | _ => false

end GateOutcome

namespace Gate

def begun (events : List GateEvent) : Nat := events.countP fun e => e.outcome.isBegun

def ended (events : List GateEvent) : Nat := events.countP fun e => e.outcome.isEnded

def shutdowns (events : List GateEvent) : Nat := events.countP fun e => e.outcome.isShutdown

/-- Every end is that of an export that has begun, and no export ends twice. -/
def Paired (events : List GateEvent) : Prop :=
  ∀ before ∈ events.inits, ended before ≤ begun before

instance : DecidablePred Paired := fun events =>
  inferInstanceAs (Decidable (∀ before ∈ events.inits, ended before ≤ begun before))

def pendingShutdowns (g : Gate) : Nat := g.sleepers.countP fun s => s.2.call == .shutdown

variable {g h k : Gate} {caller c : Nat} {s : Sleeper} {outcome : GateOutcome}
  {past later : List GateEvent}

/-- What a gate has to do with what has happened at it. -/
structure Kept (past : List GateEvent) (g : Gate) : Prop where
  count : g.lifecycle.inFlight = (begun past : Int) - ended past
  shut : g.lifecycle.isShutdown = past.any fun e => e.outcome.isOfShutdown
  once : shutdowns past + g.pendingShutdowns ≤ if g.lifecycle.isShutdown then 1 else 0
  asleep : ∀ x ∈ g.sleepers, x.2.notified = false → g.lifecycle.inFlight ≠ 0

theorem kept_initial : Kept [] initial where
  count := rfl
  shut := rfl
  once := Nat.le_refl 0
  asleep := nofun

/-! ### What a step keeps -/

theorem inFlight_of_moves (h : Moves g caller outcome k) : k.lifecycle.inFlight =
    g.lifecycle.inFlight + (if outcome.isBegun then 1 else 0) -
      if outcome.isEnded then 1 else 0 := by
  cases h with
  | begun isOpen => simp [GateOutcome.isBegun, GateOutcome.isEnded]
  | ended => simp [GateOutcome.isBegun, GateOutcome.isEnded, endExport, Lifecycle.endExport]
  | barred | late | woken | disturbed | gaveUp =>
    simp [GateOutcome.isBegun, GateOutcome.isEnded, awaken, lull]
  | idle | hurried | refused | asleep =>
    simp [GateOutcome.isBegun, GateOutcome.isEnded, lull]

theorem pendingShutdowns_awaken (h : g.sleeper? caller = some s) :
    (g.awaken caller).pendingShutdowns + (if s.call == .shutdown then 1 else 0) ≤
      g.pendingShutdowns := by
  obtain ⟨before, after, split, -⟩ := List.lookup_eq_some_iff.1 h
  have fewer : ∀ l : List (Nat × Sleeper),
      (l.filter fun s => s.1 != caller).countP (fun s => s.2.call == .shutdown) ≤
        l.countP fun s => s.2.call == .shutdown := fun l =>
    List.Sublist.countP_le List.filter_sublist
  have hb := fewer before
  have ha := fewer after
  unfold pendingShutdowns awaken
  rw [split]
  simp only [List.filter_append, List.countP_append, List.filter_cons, List.countP_cons,
    bne_self_eq_false, Bool.false_eq_true, if_false]
  omega

theorem pendingShutdowns_awaken_le (g : Gate) (caller : Nat) :
    (g.awaken caller).pendingShutdowns ≤ g.pendingShutdowns :=
  List.Sublist.countP_le List.filter_sublist

theorem pendingShutdowns_lull (g : Gate) (caller : Nat) (s : Sleeper) :
    (g.lull caller s).pendingShutdowns =
      (g.awaken caller).pendingShutdowns + if s.call == .shutdown then 1 else 0 :=
  List.countP_cons ..

theorem pendingShutdowns_endExport (g : Gate) :
    g.endExport.pendingShutdowns = g.pendingShutdowns := by
  unfold pendingShutdowns endExport
  dsimp only
  split
  · rw [List.countP_map]
    rfl
  · rfl

theorem pendingShutdowns_entered (g : Gate) (call : WaitingCall) :
    (g.entered call).pendingShutdowns = g.pendingShutdowns := by
  rw [pendingShutdowns, sleepers_entered, pendingShutdowns]

theorem isShutdown_entered (isOpen : g.lifecycle.isShutdown = false) (call : WaitingCall) :
    (g.entered call).lifecycle.isShutdown = (call == .shutdown) := by
  cases call
  · exact isOpen
  · rfl

theorem isShutdown_of_moves (pending : g.pendingShutdowns ≤ if g.lifecycle.isShutdown then 1 else 0)
    (h : Moves g caller outcome k) :
    k.lifecycle.isShutdown = (g.lifecycle.isShutdown || outcome.isOfShutdown) := by
  have asleep : ∀ {s : Sleeper}, g.sleeper? caller = some s →
      g.lifecycle.isShutdown = (g.lifecycle.isShutdown || s.call == .shutdown) := by
    intro s hs
    have fewer := pendingShutdowns_awaken hs
    cases shut : g.lifecycle.isShutdown with
    | true => rfl
    | false =>
      rw [shut] at pending
      cases hc : s.call with
      | waitIdle => rfl
      | shutdown =>
        rw [hc] at fewer
        simp at fewer pending
        omega
  cases h with
  | begun | barred | ended => simp [GateOutcome.isOfShutdown, endExport, Lifecycle.endExport]
  | late _ _ _ shut => rw [shut]; rfl
  | idle _ _ _ isOpen | hurried _ _ isOpen | refused _ _ _ isOpen =>
    rw [isShutdown_entered isOpen, isOpen]; rfl
  | asleep call limited awake isOpen =>
    rw [isOpen]
    exact isShutdown_entered isOpen call
  | woken sleeper | disturbed sleeper | gaveUp sleeper => exact asleep sleeper

theorem isShutdown_returned (call : WaitingCall) (limited idle : Bool) :
    (GateOutcome.returned call limited (call.result idle)).isShutdown = (call == .shutdown) := by
  cases call <;> rfl

/-- Of the shutdowns that have returned true and those that sleep there is one at most, and none
while the exporter is open. -/
theorem shutdowns_of_moves {n : Nat}
    (once : n + g.pendingShutdowns ≤ if g.lifecycle.isShutdown then 1 else 0)
    (h : Moves g caller outcome k) :
    (n + if outcome.isShutdown then 1 else 0) + k.pendingShutdowns ≤
      if k.lifecycle.isShutdown then 1 else 0 := by
  have entering : g.lifecycle.isShutdown = false → ∀ call : WaitingCall,
      n + (if call == .shutdown then 1 else 0) + g.pendingShutdowns ≤
        if (g.entered call).lifecycle.isShutdown then 1 else 0 := by
    intro isOpen call
    rw [isOpen] at once
    rw [isShutdown_entered isOpen]
    cases call <;> simp at once ⊢ <;> omega
  have leaving : ∀ {s : Sleeper}, g.sleeper? caller = some s →
      n + (if s.call == .shutdown then 1 else 0) + (g.awaken caller).pendingShutdowns ≤
        if g.lifecycle.isShutdown then 1 else 0 := by
    intro s asleep
    have fewer := pendingShutdowns_awaken asleep
    omega
  cases h with
  | begun | barred => exact once
  | ended =>
    rw [pendingShutdowns_endExport]
    exact once
  | late call limited =>
    have none_new : (GateOutcome.returned call limited false).isShutdown = false := by
      cases call <;> rfl
    rw [none_new]
    exact once
  | idle call limited awake isOpen =>
    rw [isShutdown_returned, pendingShutdowns_entered]
    exact entering isOpen call
  | hurried call awake isOpen =>
    rw [isShutdown_returned, pendingShutdowns_entered]
    exact entering isOpen call
  | refused call cause awake isOpen =>
    rw [pendingShutdowns_entered]
    have room := entering isOpen call
    simp only [GateOutcome.isShutdown, Bool.false_eq_true, if_false]
    omega
  | asleep call limited awake isOpen =>
    have fewer := pendingShutdowns_awaken_le (g.entered call) caller
    rw [pendingShutdowns_entered] at fewer
    have room := entering isOpen call
    rw [pendingShutdowns_lull]
    show _ ≤ if (g.entered call).lifecycle.isShutdown then 1 else 0
    simp only [GateOutcome.isShutdown, Bool.false_eq_true, if_false]
    omega
  | woken sleeper =>
    rw [isShutdown_returned]
    exact leaving sleeper
  | disturbed sleeper =>
    have room := leaving sleeper
    dsimp only at room
    rw [pendingShutdowns_lull]
    show _ ≤ if g.lifecycle.isShutdown then 1 else 0
    simp only [GateOutcome.isShutdown, Bool.false_eq_true, if_false]
    omega
  | gaveUp sleeper =>
    rw [isShutdown_returned]
    exact leaving sleeper

/-- The end that leaves nothing in flight notifies all sleepers. -/
theorem asleep_of_moves (nonneg : 0 ≤ g.lifecycle.inFlight)
    (asleep : ∀ x ∈ g.sleepers, x.2.notified = false → g.lifecycle.inFlight ≠ 0)
    (h : Moves g caller outcome k) :
    ∀ x ∈ k.sleepers, x.2.notified = false → k.lifecycle.inFlight ≠ 0 := by
  intro x hx quiet
  cases h with
  | begun isOpen =>
    show g.lifecycle.inFlight + 1 ≠ 0
    omega
  | ended =>
    intro idle
    have now_idle : g.lifecycle.endExport.isIdle = true := isIdle_iff.2 idle
    unfold endExport at hx
    simp only [now_idle, if_true] at hx
    obtain ⟨y, -, rfl⟩ := List.mem_map.1 hx
    cases quiet
  | barred | late => exact asleep x hx quiet
  | idle call | hurried call | refused call =>
    rw [sleepers_entered] at hx
    rw [inFlight_entered]
    exact asleep x hx quiet
  | asleep call limited awake isOpen busy =>
    show (g.entered call).lifecycle.inFlight ≠ 0
    rw [inFlight_entered]
    exact busy
  | disturbed sleeper busy => exact busy
  | woken | gaveUp => exact asleep x (List.mem_filter.1 hx).1 quiet

theorem begun_snoc (past : List GateEvent) (e : GateEvent) :
    begun (past ++ [e]) = begun past + if e.outcome.isBegun then 1 else 0 := by
  rw [begun, List.countP_append, List.countP_singleton, begun]

theorem ended_snoc (past : List GateEvent) (e : GateEvent) :
    ended (past ++ [e]) = ended past + if e.outcome.isEnded then 1 else 0 := by
  rw [ended, List.countP_append, List.countP_singleton, ended]

theorem Kept.step (kept : Kept past g) (fair : ended past ≤ begun past)
    (h : Moves g caller outcome k) : Kept (past ++ [⟨caller, outcome⟩]) k where
  count := by
    rw [inFlight_of_moves h, kept.count, begun_snoc, ended_snoc]
    split <;> split <;> push_cast <;> omega
  shut := by
    have pending : g.pendingShutdowns ≤ if g.lifecycle.isShutdown then 1 else 0 :=
      Nat.le_trans (Nat.le_add_left _ _) kept.once
    rw [isShutdown_of_moves pending h, kept.shut, List.any_append]
    simp
  once := by
    rw [shutdowns, List.countP_append, List.countP_singleton]
    exact shutdowns_of_moves kept.once h
  asleep := by
    have nonneg : 0 ≤ g.lifecycle.inFlight := by
      rw [kept.count]
      omega
    exact asleep_of_moves nonneg kept.asleep h

/-! ### Runs -/

theorem Paired.fair (paired : Paired past) : ended past ≤ begun past :=
  paired past ((List.mem_inits _ _).2 (List.prefix_refl _))

theorem Paired.left (paired : Paired (past ++ later)) : Paired past := by
  intro before hb
  rw [List.mem_inits] at hb
  exact paired before ((List.mem_inits _ _).2 (hb.trans (List.prefix_append _ _)))

theorem Kept.run (kept : Kept past g) (run : Run g later k) (paired : Paired (past ++ later)) :
    Kept (past ++ later) k := by
  induction run generalizing past with
  | nil => rwa [List.append_nil]
  | cons first _ ih =>
    have next := kept.step paired.left.fair (moves_of_step first)
    rw [List.append_cons] at paired ⊢
    exact ih next paired

theorem shut_of_moves (shut : g.lifecycle.isShutdown = true) (h : Moves g caller outcome k) :
    k.lifecycle.isShutdown = true ∧ outcome.isBegun = false := by
  cases h with
  | begun _ isOpen | idle _ _ _ isOpen | hurried _ _ isOpen | refused _ _ _ isOpen
  | asleep _ _ _ isOpen =>
    rw [shut] at isOpen
    cases isOpen
  | barred | ended | late | woken | disturbed | gaveUp => exact ⟨shut, rfl⟩

theorem shut_of_run (run : Run g later k) (shut : g.lifecycle.isShutdown = true) :
    k.lifecycle.isShutdown = true ∧ ∀ e ∈ later, e.outcome.isBegun = false := by
  induction run with
  | nil => exact ⟨shut, nofun⟩
  | cons first _ ih =>
    obtain ⟨still, barred⟩ := shut_of_moves shut (moves_of_step first)
    obtain ⟨shut', others⟩ := ih still
    exact ⟨shut', List.forall_mem_cons.2 ⟨barred, others⟩⟩

theorem idle_of_run (kept : Kept past g) (shut : g.lifecycle.isShutdown = true)
    (idle : g.lifecycle.inFlight = 0) (run : Run g later k) (paired : Paired (past ++ later)) :
    k.lifecycle.inFlight = 0 := by
  have none_begun : begun later = 0 := by
    rw [begun, List.countP_eq_zero]
    intro e he
    rw [(shut_of_run run shut).2 e he]
    exact Bool.false_ne_true
  have all := paired.fair
  have before := kept.count
  have after := (kept.run run paired).count
  rw [begun, ended, List.countP_append, List.countP_append, ← begun, ← begun, ← ended, ← ended]
    at after all
  omega

theorem state_eq (l : Lifecycle) : l.state =
    if l.isShutdown then .shutdown else if l.inFlight = 0 then .ready else .exporting := by
  unfold Lifecycle.state
  cases l.isShutdown with
  | true => rfl
  | false => by_cases idle : l.inFlight = 0 <;> simp [Lifecycle.isIdle, idle]

theorem state_eq_shutdown_iff {l : Lifecycle} : l.state = .shutdown ↔ l.isShutdown = true := by
  rw [state_eq]
  cases l.isShutdown with
  | true => simp
  | false => by_cases idle : l.inFlight = 0 <;> simp [idle]

theorem idle_of_waitIdle {limited : Bool}
    (h : Moves g caller (.returned .waitIdle limited true) k) :
    g.lifecycle.inFlight = 0 ∧ k.lifecycle.inFlight = 0 := by
  generalize told : GateOutcome.returned .waitIdle limited true = outcome at h
  cases h with
  | idle call limited awake isOpen idle =>
    rw [inFlight_entered]
    exact ⟨idle, idle⟩
  | woken sleeper idle => exact ⟨idle, idle⟩
  | hurried call =>
    cases call with
    | waitIdle => cases told
    | shutdown => cases told
  | @gaveUp call notified sleeper =>
    cases call with
    | waitIdle =>
      obtain ⟨-, -, idle⟩ := GateOutcome.returned.inj told
      exact ⟨isIdle_iff.1 idle.symm, isIdle_iff.1 idle.symm⟩
    | shutdown => cases told
  | begun | barred | ended | late | refused | asleep | disturbed => cases told

theorem idle_of_shutdown (kept : Kept past g)
    (h : Moves g caller (.returned .shutdown false true) k) :
    k.lifecycle.isShutdown = true ∧ k.lifecycle.inFlight = 0 := by
  have shut : k.lifecycle.isShutdown = true := by
    have pending : g.pendingShutdowns ≤ if g.lifecycle.isShutdown then 1 else 0 :=
      Nat.le_trans (Nat.le_add_left _ _) kept.once
    rw [isShutdown_of_moves pending h]
    exact Bool.or_true _
  refine ⟨shut, ?_⟩
  generalize told : GateOutcome.returned .shutdown false true = outcome at h
  cases h with
  | idle call limited awake isOpen idle =>
    rw [inFlight_entered]
    exact idle
  | woken sleeper idle => exact idle
  | hurried | gaveUp | begun | barred | ended | late | refused | asleep | disturbed => cases told

theorem notified_of_idle (kept : Kept past g) (idle : g.lifecycle.inFlight = 0)
    (asleep : g.sleeper? caller = some s) : s.notified = true := by
  by_contra quiet
  rw [Bool.not_eq_true] at quiet
  exact kept.asleep _ (mem_of_sleeper? asleep) quiet idle

theorem step_look_of_idle (idle : g.lifecycle.inFlight = 0) (asleep : g.sleeper? caller = some s)
    (notified : s.notified = true) : g.step caller .look =
      some (.returned s.call s.timed (s.call.result true), g.awaken caller) := by
  obtain ⟨call, timed, notified⟩ := s
  subst notified
  simp [step, look, asleep, isIdle_iff.2 idle, WaitingCall.outcome]

/-- A lifecycle under any callers that end what they begin. In every state that they reach, the
count is that of the exports in flight, and what can be seen is what has happened. After a shutdown
nothing begins any more; one shutdown at most is told that it was the one. Who has waited for an
idle exporter is told so of an idle exporter, and after a shutdown that waited without a limit it
stays idle. And where nothing is in flight, whoever sleeps is notified, and would return. -/
theorem run_lifecycle (run : Run .initial past g) (paired : Paired past) :
    (0 ≤ g.lifecycle.inFlight ∧ g.lifecycle.inFlight = (begun past : Int) - ended past) ∧
    (g.lifecycle.state =
      if past.any fun e => e.outcome.isOfShutdown then .shutdown
      else if ended past < begun past then .exporting else .ready) ∧
    (g.lifecycle.state = .shutdown → ∀ {later k}, Run g later k →
      k.lifecycle.state = .shutdown ∧ ∀ e ∈ later, e.outcome ≠ .begun true) ∧
    shutdowns past ≤ 1 ∧
    (∀ {c move limited k}, g.step c move = some (.returned .waitIdle limited true, k) →
      g.lifecycle.inFlight = 0 ∧ k.lifecycle.inFlight = 0) ∧
    (∀ {c move k}, g.step c move = some (.returned .shutdown false true, k) →
      k.lifecycle.inFlight = 0 ∧ ∀ {later m}, Run k later m →
        Paired (past ++ ⟨c, .returned .shutdown false true⟩ :: later) →
        m.lifecycle.inFlight = 0) ∧
    (g.lifecycle.inFlight = 0 → ∀ {c s}, g.sleeper? c = some s → s.notified = true ∧
      ∃ k, g.step c .look = some (.returned s.call s.timed (s.call.result true), k)) := by
  have kept : Kept past g := by
    have kept := kept_initial.run run paired
    rwa [List.nil_append] at kept
  have fair := paired.fair
  have count := kept.count
  have seen : g.lifecycle.state = if past.any fun e => e.outcome.isOfShutdown then .shutdown
      else if ended past < begun past then .exporting else .ready := by
    rw [state_eq, kept.shut]
    by_cases busy : ended past < begun past
    · have in_flight : g.lifecycle.inFlight ≠ 0 := by omega
      rw [if_pos busy, if_neg in_flight]
    · have idle : g.lifecycle.inFlight = 0 := by omega
      rw [if_neg busy, if_pos idle]
  refine ⟨⟨by omega, count⟩, seen, fun shut {later k} later_run => ?_, ?_, fun h => ?_,
    fun {c move k} h => ?_, fun idle {c s} asleep => ?_⟩
  · obtain ⟨shut', barred⟩ := shut_of_run later_run (state_eq_shutdown_iff.1 shut)
    refine ⟨state_eq_shutdown_iff.2 shut', fun e he granted => ?_⟩
    have refused := barred e he
    rw [granted] at refused
    cases refused
  · have once := kept.once
    split at once <;> omega
  · exact idle_of_waitIdle (moves_of_step h)
  · obtain ⟨shut, idle⟩ := idle_of_shutdown kept (moves_of_step h)
    refine ⟨idle, fun {later m} later_run paired' => ?_⟩
    have next := kept.step fair (moves_of_step h)
    rw [List.append_cons] at paired'
    exact idle_of_run next shut idle later_run paired'
  · have notified := notified_of_idle kept idle asleep
    exact ⟨notified, _, step_look_of_idle idle asleep notified⟩

/-- While one caller exports, two wait without a limit, one of them to shut down; the end of the
export lets both return, and the exporter stays idle. -/
theorem run_lifecycle_two_waiting :
    ∃ past g, Run .initial past g ∧ Paired past ∧ g.lifecycle.state = .shutdown ∧
      g.lifecycle.inFlight = 0 ∧ shutdowns past = 0 ∧
      (∃ k, g.step 1 .look = some (.returned .waitIdle false true, k)) ∧
      ∃ k, g.step 2 .look = some (.returned .shutdown false true, k) ∧ k.lifecycle.inFlight = 0 := by
  have run : Run .initial [⟨0, .begun true⟩, ⟨1, .asleep .waitIdle false⟩,
      ⟨2, .asleep .shutdown false⟩, ⟨3, .begun false⟩, ⟨0, .ended⟩] _ :=
    @Run.cons _ _ _ 0 .beginExport _ _ rfl <|
    @Run.cons _ _ _ 1 (.enter .waitIdle (Patience.ofSeconds .null)) _ _ rfl <|
    @Run.cons _ _ _ 2 (.enter .shutdown (Patience.ofSeconds .null)) _ _ rfl <|
    @Run.cons _ _ _ 3 .beginExport _ _ rfl <|
    @Run.cons _ _ _ 0 .endExport _ _ rfl .nil
  obtain ⟨⟨-, count⟩, seen, -, -, -, last, woken⟩ := run_lifecycle run (by decide)
  obtain ⟨-, k, looked⟩ := @woken rfl 2 ⟨.shutdown, false, true⟩ rfl
  have waiting := (@woken rfl 1 ⟨.waitIdle, false, true⟩ rfl).2
  exact ⟨_, _, run, by decide, seen, count, by decide, waiting, k, looked, (last looked).1⟩

end Gate

end CloudTelemetry
