import CloudTelemetry.Procedure

/-!
# Protocols

A `Protocol` says which requests are allowed in which phase, and how an exchange changes the phase.
A procedure that obeys it (`Procedure.Obeys`) keeps to it whatever it is replied; so does what is
left of it after any exchanges (`Obeys.leads`), and a handler that answers all that is allowed
carries it out to its end (`Obeys.run_eq_some`). What it has gone through is reasoned about exchange
by exchange (`Obeys.along`).
-/

namespace CloudTelemetry

/-- Rules for a procedure, by the phase that it is in. -/
structure Protocol (Request : Type) (Reply : Request → Type) (Phase : Type) where
  allows : Phase → Request → Prop
  after : Phase → (r : Request) → Reply r → Phase

variable {Request : Type} {Reply : Request → Type} {Phase α β σ : Type}

def Protocol.afterAll (P : Protocol Request Reply Phase) (g : Phase)
    (t : List (Exchange Request Reply)) : Phase :=
  t.foldl (fun g x => P.after g x.request x.reply) g

namespace Procedure

variable {P : Protocol Request Reply Phase} {final : Phase → α → Prop} {g : Phase}
  {p q : Procedure Request Reply α}

/-- Whatever it is replied, the procedure makes allowed requests only, and ends in a final phase. -/
def Obeys (P : Protocol Request Reply Phase) (final : Phase → α → Prop) :
    Phase → Procedure Request Reply α → Prop
  | g, .done result => final g result
  | g, .ask r next => P.allows g r ∧ ∀ reply, Obeys P final (P.after g r reply) (next reply)

theorem obeys_pure {result : α} (h : final g result) :
    Obeys P final g (pure result : Procedure Request Reply α) := h

theorem obeys_bind {mid : Phase → α → Prop} {final : Phase → β → Prop}
    {f : α → Procedure Request Reply β} (hp : Obeys P mid g p)
    (hf : ∀ g a, mid g a → Obeys P final g (f a)) : Obeys P final g (p >>= f) := by
  rw [bind_eq]
  induction p generalizing g with
  | done result => exact hf g result hp
  | ask r next ih => exact ⟨hp.1, fun reply => ih reply (hp.2 reply)⟩

theorem stays_bind {f : α → Procedure Request Reply β}
    (hp : Obeys P (fun later _ => later = g) g p)
    (hf : ∀ a, Obeys P (fun later _ => later = g) g (f a)) :
    Obeys P (fun later _ => later = g) g (p >>= f) := by
  refine obeys_bind hp ?_
  rintro _ a rfl
  exact hf a

theorem obeys_request {r : Request} {final : Phase → Reply r → Prop} (allowed : P.allows g r)
    (h : ∀ reply, final (P.after g r reply) reply) :
    Obeys P final g (request r : Procedure Request Reply (Reply r)) :=
  ⟨allowed, h⟩

theorem Obeys.leads {t : List (Exchange Request Reply)} (h : Obeys P final g p)
    (hl : p.Leads t q) : Obeys P final (P.afterAll g t) q := by
  induction t generalizing p g with
  | nil =>
    obtain rfl := leads_nil.1 hl
    exact h
  | cons x t ih =>
    cases p with
    | done result => exact hl.elim
    | ask r next =>
      obtain ⟨reply, rfl, hl⟩ := hl
      exact ih (h.2 reply) hl

/-- What holds of no exchanges, and of an allowed one if it does of those behind it, holds of all
that a procedure has gone through. -/
theorem Obeys.along {motive : Phase → List (Exchange Request Reply) → Prop}
    (nil : ∀ g, motive g [])
    (cons : ∀ g r (reply : Reply r) t, P.allows g r → motive (P.after g r reply) t →
      motive g (⟨r, reply⟩ :: t))
    {t : List (Exchange Request Reply)} (h : Obeys P final g p) (hl : p.Leads t q) :
    motive g t := by
  induction t generalizing p g with
  | nil => exact nil g
  | cons x t ih =>
    cases p with
    | done result => exact hl.elim
    | ask r next =>
      obtain ⟨reply, rfl, hl⟩ := hl
      exact cons g r reply t h.1 (ih (h.2 reply) hl)

theorem Obeys.allowed {t : List (Exchange Request Reply)} (h : Obeys P final g p)
    (hl : p.Leads t q) : ∀ x ∈ t, ∃ g, P.allows g x.request := by
  refine h.along (motive := fun _ t => ∀ x ∈ t, ∃ g, P.allows g x.request) (fun _ => nofun) ?_ hl
  intro g r reply t allowed ih
  exact List.forall_mem_cons.2 ⟨⟨g, allowed⟩, ih⟩

/-- A handler that answers what is allowed, where `inv` ties its state to the phase, carries the
procedure out. -/
theorem Obeys.run_eq_some {handle : (r : Request) → σ → Option (Reply r × σ)}
    (inv : Phase → σ → Prop)
    (answers : ∀ g s r, P.allows g r → inv g s →
      ∃ reply u, handle r s = some (reply, u) ∧ inv (P.after g r reply) u)
    {s : σ} (h : Obeys P final g p) (hs : inv g s) :
    ∃ result u, p.run handle s = some (result, u) := by
  induction p generalizing g s with
  | done result => exact ⟨result, s, rfl⟩
  | ask r next ih =>
    obtain ⟨reply, m, hr, hm⟩ := answers g s r h.1 hs
    obtain ⟨result, u, hu⟩ := ih reply (h.2 reply) hm
    exact ⟨result, u, by simp only [run, hr, hu]⟩

/-- Two handlers carry a procedure out alike if they answer alike what is allowed. -/
theorem Obeys.run_congr {handle handle' : (r : Request) → σ → Option (Reply r × σ)}
    (inv : Phase → σ → Prop)
    (alike : ∀ g s r, P.allows g r → inv g s → handle r s = handle' r s)
    (keeps : ∀ g s r reply u, P.allows g r → inv g s → handle r s = some (reply, u) →
      inv (P.after g r reply) u)
    {s : σ} (h : Obeys P final g p) (hs : inv g s) : p.run handle s = p.run handle' s := by
  induction p generalizing g s with
  | done result => rfl
  | ask r next ih =>
    unfold run
    rw [← alike g s r h.1 hs]
    cases answer : handle r s with
    | none => rfl
    | some out => exact ih out.1 (h.2 out.1) (keeps g s r out.1 out.2 h.1 hs answer)

/-! ### All ways of a procedure -/

section
variable [∀ r, Nonempty (Reply r)]

theorem exists_goes (p : Procedure Request Reply α) : ∃ t a, p.Goes t a := by
  induction p with
  | done result => exact ⟨[], result, goes_done.2 ⟨rfl, rfl⟩⟩
  | ask r next ih =>
    obtain ⟨reply⟩ := ‹∀ r, Nonempty (Reply r)› r
    obtain ⟨t, a, goes⟩ := ih reply
    exact ⟨⟨r, reply⟩ :: t, a, goes_ask.2 ⟨reply, t, rfl, goes⟩⟩

theorem Leads.exists_goes {t : List (Exchange Request Reply)} (h : p.Leads t q) :
    ∃ later a, p.Goes (t ++ later) a ∧ q.Goes later a := by
  induction t generalizing p with
  | nil =>
    obtain rfl := leads_nil.1 h
    obtain ⟨later, a, goes⟩ := Procedure.exists_goes p
    exact ⟨later, a, goes, goes⟩
  | cons x t ih =>
    cases p with
    | done result => exact h.elim
    | ask r next =>
      obtain ⟨reply, rfl, h⟩ := h
      obtain ⟨later, a, goes, rest⟩ := ih h
      exact ⟨later, a, goes_ask.2 ⟨reply, _, rfl, goes⟩, rest⟩

theorem obeys_of_goes {kind : Request → Prop}
    (stays : ∀ r, kind r → P.allows g r ∧ ∀ reply, P.after g r reply = g)
    (h : ∀ {t a}, p.Goes t a → ∀ x ∈ t, kind x.request) :
    Obeys P (fun later _ => later = g) g p := by
  induction p with
  | done result => exact rfl
  | ask r next ih =>
    have own : kind r := by
      obtain ⟨t, a, goes⟩ := exists_goes (.ask r next)
      obtain ⟨reply, rest, rfl, -⟩ := goes_ask.1 goes
      exact h goes _ List.mem_cons_self
    obtain ⟨allowed, same⟩ := stays r own
    refine ⟨allowed, fun reply => ?_⟩
    rw [same reply]
    refine ih reply fun {t a} goes x hx => ?_
    exact h (goes_ask.2 ⟨reply, t, rfl, goes⟩) x (List.mem_cons_of_mem _ hx)

end

end Procedure

end CloudTelemetry
