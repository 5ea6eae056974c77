import CloudTelemetry.Export.Rehearsal
import CloudTelemetry.Export.Traffic
import CloudTelemetry.Proofs.Lifecycle.Gate
import Mathlib.Data.Finset.Card
import Mathlib.Data.Finset.Range
import Mathlib.Logic.Hydra

/-!
# All traffic ends

No traffic goes on forever (`Traffic.ends`), whatever its callers do and in whatever order they take
their steps. A step that answers a caller leaves less of its procedure, and nothing else of the
others; a step that puts a caller to sleep leaves the procedures as they are, but fewer callers that
could go to sleep. So steps go down in a lexicographic order, of the procedures first. What a caller
has done stays with it (`Reaches.past_prefix`), and is a way of its procedure (`Reaches.leads`).
-/

namespace CloudTelemetry

/-- The calls that a caller has made, the last of which may be in progress. -/
def Caller.calls {α : Type} (c : Caller α) : List Call :=
  c.past.calls.map Prod.fst ++
    match c.rest with
    | .ask (.call call) _ => [call]
    | _ => []

namespace Procedure

variable {Request : Type} {Reply : Request → Type} {α : Type}

/-- The first procedure is what a reply leaves of the second. -/
def Follows (p q : Procedure Request Reply α) : Prop :=
  ∃ r next reply, q = .ask r next ∧ p = next reply

theorem acc_follows (p : Procedure Request Reply α) : Acc Follows p := by
  induction p with
  | done result =>
    refine ⟨_, fun q h => ?_⟩
    obtain ⟨r, next, reply, h, -⟩ := h
    cases h
  | ask r next ih =>
    refine ⟨_, fun q h => ?_⟩
    obtain ⟨_, _, reply, h, rfl⟩ := h
    cases h
    exact ih reply

theorem wellFounded_follows : WellFounded (@Follows Request Reply α) := ⟨acc_follows⟩

end Procedure

/-! ### Callers that may go to sleep -/

/-- The caller does not sleep, or it is notified. -/
def ClaimDesk.Restless (d : ClaimDesk) (caller : Nat) : Prop :=
  ∀ id, d.waiting caller ≠ some ⟨id, false⟩

theorem ClaimDesk.restless_of_asleep {d after : ClaimDesk} {caller : Nat} {id : Identity}
    (may : d.mayAsk caller id = true) (h : d.ask caller id = (.asleep, after)) :
    d.Restless caller ∧ ¬ after.Restless caller ∧
      ∀ c ≠ caller, after.Restless c → d.Restless c := by
  unfold ask at h
  split at h <;> cases h
  refine ⟨fun x hx => ?_, fun restless => ?_, fun c hc restless x hx => ?_⟩
  · simp [mayAsk, hx] at may
  · exact restless id (by simp [place])
  · exact restless x (by simpa [place, hc] using hx)

def Gate.Restless (g : Gate) (caller : Nat) : Prop :=
  ∀ call timed, g.sleeper? caller ≠ some ⟨call, timed, false⟩

theorem Gate.restless_of_lull {g : Gate} {caller : Nat} (call : WaitingCall) (timed : Bool)
    (restless : g.Restless caller) :
    g.Restless caller ∧ ¬ (g.lull caller ⟨call, timed, false⟩).Restless caller ∧
      ∀ c ≠ caller, (g.lull caller ⟨call, timed, false⟩).Restless c → g.Restless c := by
  refine ⟨restless, fun h => h call timed (sleeper?_lull_self ..), fun c hc h x b hx => ?_⟩
  exact h x b (by rw [sleeper?_lull_of_ne g hc, hx])

namespace Shared

variable {s after : Shared} {i : Nat} {timeUp : Bool}

/-- A caller that is put to sleep was restless, at the desk or at the gate, and is no longer. -/
def Lulls (s after : Shared) (i : Nat) : Prop :=
  after.gate = s.gate ∧ s.desk.Restless i ∧ ¬ after.desk.Restless i ∧
      (∀ c ≠ i, after.desk.Restless c → s.desk.Restless c) ∨
    after.desk = s.desk ∧ s.gate.Restless i ∧ ¬ after.gate.Restless i ∧
      ∀ c ≠ i, after.gate.Restless c → s.gate.Restless c

theorem lulls_of_await {g gate : Gate} {call : WaitingCall} {patience : Patience}
    (restless : g.Restless i) (h : g.await i call patience = (.ok .asleep, gate)) :
    g.Restless i ∧ ¬ gate.Restless i ∧ ∀ c ≠ i, gate.Restless c → g.Restless c := by
  unfold Gate.await at h
  split at h <;> cases h
  exact Gate.restless_of_lull call _ restless

theorem lulls_of_wait {call : WaitingCall} {patience : Patience}
    (h : s.wait i timeUp call patience = some (none, after)) : s.Lulls after i := by
  unfold wait at h
  split at h
  · rename_i awake
    have restless : s.gate.Restless i := by
      intro x b hx
      rw [awake] at hx
      cases hx
    split at h <;> cases h
    rename_i gate entered
    refine .inr ⟨rfl, ?_⟩
    unfold Gate.enter at entered
    split at entered
    · cases entered
    · cases call with
      | waitIdle => exact lulls_of_await restless entered
      | shutdown =>
        obtain ⟨-, asleep, others⟩ := lulls_of_await (g := { s.gate with
          lifecycle := s.gate.lifecycle.shutDown.2 }) restless entered
        exact ⟨restless, asleep, others⟩
  · obtain ⟨_, -, h⟩ := Option.map_eq_some_iff.1 h
    cases h
  · obtain ⟨out, looked, h⟩ := Option.map_eq_some_iff.1 h
    split at h <;> cases h
    rename_i gate
    unfold Gate.look at looked
    split at looked
    · rename_i call' timed asleep
      split at looked <;> cases looked
      refine .inr ⟨rfl, Gate.restless_of_lull call' timed fun x b hx => ?_⟩
      rw [asleep] at hx
      cases hx
    · cases looked

theorem lulls_of_attempt {action : Action}
    (h : s.attempt i timeUp action = some (none, after)) : s.Lulls after i := by
  cases action with
  | waitIdle patience => exact lulls_of_wait h
  | shutDown patience => exact lulls_of_wait h
  | claim id =>
    simp only [attempt, claim] at h
    split at h
    · rename_i may
      split at h <;> cases h
      rename_i desk asked
      exact .inl ⟨rfl, ClaimDesk.restless_of_asleep may asked⟩
    · cases h
  | beginExport | endExport | isShutdown | state | settle | call | log => cases h

theorem desk_of_wait {call : WaitingCall} {patience : Patience}
    {reply : Option (Except Failure Bool)}
    (h : s.wait i timeUp call patience = some (reply, after)) : after.desk = s.desk := by
  unfold wait at h
  split at h
  · split at h <;> cases h <;> rfl
  · obtain ⟨out, -, h⟩ := Option.map_eq_some_iff.1 h
    cases h
    rfl
  · obtain ⟨out, -, h⟩ := Option.map_eq_some_iff.1 h
    split at h <;> cases h <;> rfl

end Shared

/-! ### The descent -/

namespace Traffic
open Procedure Relation

variable {α : Type} {serves : Nat → Trace → Call → Except Failure Unit → Prop} {s t : Traffic α}

/-- What is left to do, in no order. -/
def left (s : Traffic α) : Multiset (Steps α) := ↑(s.callers.map Caller.rest)

open Classical in
noncomputable def countBelow (n : Nat) (p : Nat → Prop) : Nat := ((Finset.range n).filter p).card

noncomputable def unrest (s : Traffic α) : Nat :=
  countBelow s.callers.length s.shared.desk.Restless +
    countBelow s.callers.length s.shared.gate.Restless

theorem countBelow_lt {n i : Nat} {p q : Nat → Prop} (hi : i < n) (before : p i) (after : ¬ q i)
    (others : ∀ c ≠ i, q c → p c) : countBelow n q < countBelow n p := by
  classical
  apply Finset.card_lt_card
  rw [Finset.ssubset_iff_of_subset]
  · exact ⟨i, by simp [hi, before], by simp [after]⟩
  · intro c hc
    rw [Finset.mem_filter] at hc ⊢
    refine ⟨hc.1, others c (fun heq => ?_) hc.2⟩
    rw [heq] at hc
    exact after hc.2

theorem unrest_lt {shared after : Shared} {callers : List (Caller α)} {i : Nat}
    (hi : i < callers.length) (h : shared.Lulls after i) :
    unrest (⟨after, callers⟩ : Traffic α) < unrest (⟨shared, callers⟩ : Traffic α) := by
  unfold unrest
  rcases h with ⟨gate, before, now, others⟩ | ⟨desk, before, now, others⟩
  · show countBelow _ after.desk.Restless + countBelow _ after.gate.Restless < _
    rw [gate]
    exact Nat.add_lt_add_right (countBelow_lt hi before now others) _
  · show countBelow _ after.desk.Restless + countBelow _ after.gate.Restless < _
    rw [desk]
    exact Nat.add_lt_add_left (countBelow_lt hi before now others) _

theorem coe_set {β : Type} {l : List β} {i : Nat} {x : β} (h : l[i]? = some x) (y : β) :
    (↑(l.set i y) : Multiset β) + {x} = ↑l + {y} := by
  induction l generalizing i with
  | nil => cases h
  | cons a l ih =>
    cases i with
    | zero =>
      obtain rfl := Option.some.inj h
      show (↑(y :: l) : Multiset β) + ↑[a] = ↑(a :: l) + ↑[y]
      rw [Multiset.coe_add, Multiset.coe_add, Multiset.coe_eq_coe]
      have swap : ([a] ++ (y :: l)).Perm ([y] ++ (a :: l)) := List.Perm.swap y a l
      exact List.perm_append_comm.trans (swap.trans List.perm_append_comm)
    | succ i =>
      rw [List.set_cons_succ, ← Multiset.cons_coe, ← Multiset.cons_coe, Multiset.cons_add,
        Multiset.cons_add, ih h]

theorem cutExpand_set {shared after : Shared} {callers : List (Caller α)} {i : Nat}
    {action : Action} {next : action.Reply → Steps α} {past : Trace} (reply : action.Reply)
    (caller : callers[i]? = some ⟨.ask action next, past⟩) :
    CutExpand Follows (left ⟨after, callers.set i (.goOn past action next reply)⟩)
      (left ⟨shared, callers⟩) := by
  refine ⟨{next reply}, .ask action next, fun p hp => ?_, ?_⟩
  · rw [Multiset.mem_singleton] at hp
    exact ⟨action, next, reply, rfl, hp⟩
  · unfold left
    rw [List.map_set]
    exact coe_set (by rw [List.getElem?_map, caller]; rfl) _

def Below : Traffic α → Traffic α → Prop :=
  InvImage (Prod.Lex (CutExpand Follows) (· < ·)) fun s => (s.left, s.unrest)

theorem wellFounded_below : WellFounded (Below (α := α)) := by
  have : Std.Irrefl (@Follows Action Action.Reply α) :=
    ⟨fun p h => (wellFounded_follows.irrefl.irrefl p) h⟩
  exact InvImage.wf _ (WellFounded.prod_lex wellFounded_follows.cutExpand Nat.lt_wfRel.wf)

theorem Step.below (h : Step serves s t) : Below t s := by
  cases h with
  | answered timeUp caller attempt => exact Prod.Lex.left _ _ (cutExpand_set _ caller)
  | served caller reply => exact Prod.Lex.left _ _ (cutExpand_set _ caller)
  | asleep timeUp caller attempt =>
    obtain ⟨hi, -⟩ := List.getElem?_eq_some_iff.1 caller
    exact Prod.Lex.right _ (unrest_lt hi (Shared.lulls_of_attempt attempt))

/-- No traffic goes on forever. -/
theorem ends (states : Nat → Traffic α) : ¬ ∀ n, Step serves (states n) (states (n + 1)) := by
  intro steps
  obtain ⟨_, ⟨n, rfl⟩, least⟩ := wellFounded_below.has_min (Set.range states) ⟨_, 0, rfl⟩
  exact least _ ⟨n + 1, rfl⟩ (steps n).below

/-! ### What callers have done -/

section
variable {cache : DescriptorCache} {procedures : List (Steps α)} {services : Nat → Service}

theorem getElem?_set_cases {β : Type} {l : List β} {i j : Nat} {x y : β}
    (h : (l.set i x)[j]? = some y) : j = i ∧ y = x ∨ j ≠ i ∧ l[j]? = some y := by
  rw [List.getElem?_set] at h
  split at h
  · rename_i hij
    split at h
    · exact .inl ⟨hij.symm, (Option.some.inj h).symm⟩
    · cases h
  · rename_i hij
    exact .inr ⟨fun hji => hij hji.symm, h⟩

theorem sum_map_set {β : Type} {l : List β} {i : Nat} {x : β} (h : l[i]? = some x) (y : β)
    (f : β → Nat) : ((l.set i y).map f).sum + f x = (l.map f).sum + f y := by
  induction l generalizing i with
  | nil => cases h
  | cons a l ih =>
    cases i with
    | zero =>
      obtain rfl := Option.some.inj h
      simp only [List.set_cons_zero, List.map_cons, List.sum_cons]
      omega
    | succ i =>
      have rest := ih (i := i) h
      simp only [List.set_cons_succ, List.map_cons, List.sum_cons]
      omega

theorem add_le_sum {l : List Nat} {i j m n : Nat} (hi : l[i]? = some m) (hj : l[j]? = some n)
    (ne : i ≠ j) : m + n ≤ l.sum := by
  have cleared := sum_map_set hi 0 id
  simp only [List.map_id, id] at cleared
  have mem : n ∈ l.set i 0 := List.mem_of_getElem? ((List.getElem?_set_ne ne).trans hj)
  have le : n ≤ (l.set i 0).sum := List.le_sum_of_mem mem
  omega

theorem Reaches.trans {s t u : Traffic α} (h : Reaches serves s t) (later : Reaches serves t u) :
    Reaches serves s u := by
  induction later with
  | refl => exact h
  | step before last ih => exact ih.step last

theorem past_prefix_set {callers : List (Caller α)} {i j : Nat} {d : Caller α} {past : Trace}
    {action : Action} {next : action.Reply → Steps α} (hd : callers[i]? = some d)
    (caller : callers[j]? = some ⟨.ask action next, past⟩) (reply : action.Reply) :
    ∃ d', (callers.set j (.goOn past action next reply))[i]? = some d' ∧ d.past <+: d'.past := by
  by_cases hj : j = i
  · subst hj
    obtain ⟨hi, -⟩ := List.getElem?_eq_some_iff.1 hd
    obtain rfl := Option.some.inj (caller.symm.trans hd)
    exact ⟨_, List.getElem?_set_self hi, List.prefix_append _ _⟩
  · exact ⟨d, (List.getElem?_set_ne hj).trans hd, List.prefix_refl _⟩

theorem Reaches.past_prefix {s t : Traffic α} {i : Nat} {c : Caller α} (h : Reaches serves s t)
    (hc : s.callers[i]? = some c) : ∃ d, t.callers[i]? = some d ∧ c.past <+: d.past := by
  induction h with
  | refl => exact ⟨c, hc, List.prefix_refl _⟩
  | step before last ih =>
    obtain ⟨d, hd, grown⟩ := ih
    cases last with
    | @answered _ _ _ _ _ _ _ _ reply caller attempt =>
      obtain ⟨d', hd', more⟩ := past_prefix_set hd caller reply
      exact ⟨d', hd', grown.trans more⟩
    | asleep => exact ⟨d, hd, grown⟩
    | @served _ _ _ _ _ _ outcome caller reply =>
      obtain ⟨d', hd', more⟩ := past_prefix_set hd caller outcome
      exact ⟨d', hd', grown.trans more⟩

theorem Reaches.length_callers (h : Reaches serves (start cache procedures) s) :
    s.callers.length = procedures.length := by
  induction h with
  | refl => exact List.length_map ..
  | step before last ih =>
    cases last with
    | answered | served => exact (List.length_set ..).trans ih
    | asleep => exact ih

/-- What holds of each caller in the beginning, and stays so as the caller goes on, holds of all. -/
theorem Reaches.each {Q : Nat → Caller α → Prop} (h : Reaches serves (start cache procedures) s)
    (begun : ∀ i p, procedures[i]? = some p → Q i ⟨p, []⟩)
    (answered : ∀ {i past action next} (reply : action.Reply), (∀ c, action ≠ .call c) →
      Q i ⟨.ask action next, past⟩ → Q i (.goOn past action next reply))
    (served : ∀ {i past c next outcome}, serves i past c outcome →
      Q i ⟨.ask (.call c) next, past⟩ → Q i (.goOn past (.call c) next outcome)) :
    ∀ (i : Nat) (c : Caller α), s.callers[i]? = some c → Q i c := by
  induction h with
  | refl =>
    intro i c hc
    unfold start at hc
    rw [List.getElem?_map, Option.map_eq_some_iff] at hc
    obtain ⟨p, hp, rfl⟩ := hc
    exact begun i p hp
  | step before last ih =>
    cases last with
    | answered timeUp caller attempt =>
      intro j k hk
      rcases getElem?_set_cases hk with ⟨rfl, rfl⟩ | ⟨-, hk⟩
      · refine answered _ (fun c heq => ?_) (ih j _ caller)
        subst heq
        cases attempt
      · exact ih j k hk
    | asleep timeUp caller attempt => exact ih
    | served caller reply =>
      intro j k hk
      rcases getElem?_set_cases hk with ⟨rfl, rfl⟩ | ⟨-, hk⟩
      · exact served reply (ih j _ caller)
      · exact ih j k hk

theorem Reaches.leads (h : Reaches serves (start cache procedures) s) :
    ∀ (i : Nat) (c : Caller α), s.callers[i]? = some c →
      ∃ p : Steps α, procedures[i]? = some p ∧ p.Leads c.past c.rest := by
  refine h.each (fun i p hp => ⟨p, hp, leads_nil.2 rfl⟩) (fun reply _ before => ?_)
    fun _ before => ?_
  all_goals
    obtain ⟨p, hp, leads⟩ := before
    exact ⟨p, hp, leads.snoc _⟩

theorem Reaches.replies (h : Reaches (servedBy services) (start cache procedures) s) :
    ∀ (i : Nat) (c : Caller α), s.callers[i]? = some c →
      c.past.calls = Service.replies (services i) [] (c.past.calls.map Prod.fst) := by
  refine h.each (fun i p _ => rfl) (fun {i past action next} reply other before => ?_)
    fun {i past c next outcome} reply before => ?_
  · have quiet : Trace.calls [⟨action, reply⟩] = [] := by
      cases action with
      | call c => exact absurd rfl (other c)
      | _ => rfl
    show Trace.calls (past ++ _) =
      Service.replies (services i) [] ((Trace.calls (past ++ _)).map _)
    rw [Trace.calls_append, quiet, List.append_nil]
    exact before
  · have one : Trace.calls [⟨.call c, outcome⟩] = [(c, outcome)] := rfl
    show Trace.calls (past ++ _) =
      Service.replies (services i) [] ((Trace.calls (past ++ _)).map _)
    rw [Trace.calls_append, one, List.map_append, Service.replies_append, ← before, reply]
    rfl

end

end Traffic

/-! ### Exporters in use -/

def Exporter.traffic {Batch : Type} (e : Exporter Batch) (cache : DescriptorCache)
    (requests : List (Request Batch)) : Traffic (Except Failure Response) :=
  .start cache (requests.map e.answer)

theorem Exporter.leads_of_reaches {Batch : Type} {e : Exporter Batch} {cache : DescriptorCache}
    {requests : List (Request Batch)} {serves : Nat → Trace → Call → Except Failure Unit → Prop}
    {s : Traffic (Except Failure Response)} {i : Nat}
    (h : Traffic.Reaches serves (e.traffic cache requests) s)
    {c : Caller (Except Failure Response)} (hc : s.callers[i]? = some c) :
    ∃ request, requests[i]? = some request ∧ (e.answer request).Leads c.past c.rest := by
  obtain ⟨p, hp, leads⟩ := h.leads i c hc
  rw [List.getElem?_map, Option.map_eq_some_iff] at hp
  obtain ⟨request, asked, rfl⟩ := hp
  exact ⟨request, asked, leads⟩

end CloudTelemetry
