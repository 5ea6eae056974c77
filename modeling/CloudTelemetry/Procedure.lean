/-!
# Procedures

A `Procedure` is what one caller does, as a tree: it makes a request of its surroundings and goes
on with the reply, until it is done. Nothing is said of what a request does. `run` carries a
procedure out alone, over a state, by a handler that answers requests; a handler that has no
answer leaves the procedure blocked. `run_bind` says that a sequence of two procedures runs one
after the other. `Leads` follows a procedure through given exchanges, whoever answers.
-/

namespace CloudTelemetry

/-- Requests with replies of given types, and a result in the end. -/
inductive Procedure (Request : Type) (Reply : Request → Type) (α : Type) where
  | done (result : α)
  | ask (request : Request) (next : Reply request → Procedure Request Reply α)

structure Exchange (Request : Type) (Reply : Request → Type) where
  request : Request
  reply : Reply request

namespace Procedure

variable {Request : Type} {Reply : Request → Type} {α β σ : Type}

def bind (p : Procedure Request Reply α) (f : α → Procedure Request Reply β) :
    Procedure Request Reply β :=
  match p with
  | .done result => f result
  | .ask request next => .ask request fun reply => (next reply).bind f

instance : Monad (Procedure Request Reply) where
  pure := .done
  bind := Procedure.bind

def request (r : Request) : Procedure Request Reply (Reply r) := .ask r .done

def run (handle : (r : Request) → σ → Option (Reply r × σ)) :
    Procedure Request Reply α → σ → Option (α × σ)
  | .done result, s => some (result, s)
  | .ask r next, s =>
    match handle r s with
    | some (reply, s) => (next reply).run handle s
    | none => none

/-- After the exchanges, the second procedure is what is left of the first. -/
def Leads : Procedure Request Reply α → List (Exchange Request Reply) →
    Procedure Request Reply α → Prop
  | p, [], q => p = q
  | .done _, _ :: _, _ => False
  | .ask r next, x :: rest, q => ∃ reply, x = ⟨r, reply⟩ ∧ (next reply).Leads rest q

/-- The exchanges are one way in which the procedure can go, and its result in the end. -/
def Goes (p : Procedure Request Reply α) (exchanges : List (Exchange Request Reply))
    (result : α) : Prop :=
  p.Leads exchanges (.done result)

theorem run_done (handle : (r : Request) → σ → Option (Reply r × σ)) (result : α) (s : σ) :
    (Procedure.done result : Procedure Request Reply α).run handle s = some (result, s) := rfl

theorem run_bind (handle : (r : Request) → σ → Option (Reply r × σ))
    (p : Procedure Request Reply α) (f : α → Procedure Request Reply β) (s : σ) :
    (p.bind f).run handle s = (p.run handle s).bind fun out => (f out.1).run handle out.2 := by
  induction p generalizing s with
  | done result => rfl
  | ask r next ih =>
    simp only [bind, run]
    cases handle r s with
    | none => rfl
    | some out => exact ih out.1 out.2

/-! ### The ways in which a procedure can go -/

section
variable {p q : Procedure Request Reply α} {t : List (Exchange Request Reply)}

theorem bind_eq (p : Procedure Request Reply α) (f : α → Procedure Request Reply β) :
    p >>= f = p.bind f := rfl

theorem leads_nil : p.Leads [] q ↔ p = q := by
  cases p <;> rfl

theorem goes_done {result a : α} :
    (done result : Procedure Request Reply α).Goes t a ↔ t = [] ∧ a = result := by
  cases t with
  | nil => simp [Goes, Leads, eq_comm]
  | cons x t => simp [Goes, Leads]

theorem goes_pure {result a : α} :
    (pure result : Procedure Request Reply α).Goes t a ↔ t = [] ∧ a = result :=
  goes_done

theorem goes_ask {r : Request} {next : Reply r → Procedure Request Reply α} {a : α} :
    (ask r next).Goes t a ↔ ∃ reply rest, t = ⟨r, reply⟩ :: rest ∧ (next reply).Goes rest a := by
  cases t with
  | nil => simp [Goes, Leads]
  | cons x t =>
    constructor
    · rintro ⟨reply, rfl, h⟩
      exact ⟨reply, t, rfl, h⟩
    · rintro ⟨reply, rest, hx, h⟩
      obtain ⟨rfl, rfl⟩ := List.cons.inj hx
      exact ⟨reply, rfl, h⟩

theorem goes_request {r : Request} {a : Reply r} {t : List (Exchange Request Reply)} :
    (request r : Procedure Request Reply (Reply r)).Goes t a ↔ t = [⟨r, a⟩] := by
  simp only [request, goes_ask, goes_done]
  constructor
  · rintro ⟨reply, rest, rfl, rfl, rfl⟩
    rfl
  · rintro rfl
    exact ⟨a, [], rfl, rfl, rfl⟩

theorem goes_bind {f : α → Procedure Request Reply β} {b : β} :
    (p >>= f).Goes t b ↔ ∃ t₁ a t₂, t = t₁ ++ t₂ ∧ p.Goes t₁ a ∧ (f a).Goes t₂ b := by
  rw [bind_eq]
  induction p generalizing t with
  | done result =>
    constructor
    · exact fun h => ⟨[], result, t, rfl, goes_done.2 ⟨rfl, rfl⟩, h⟩
    · rintro ⟨t₁, a, t₂, rfl, h₁, h₂⟩
      obtain ⟨rfl, rfl⟩ := goes_done.1 h₁
      exact h₂
  | ask r next ih =>
    constructor
    · intro h
      obtain ⟨reply, rest, rfl, hr⟩ := goes_ask.1 h
      obtain ⟨t₁, a, t₂, rfl, h₁, h₂⟩ := (ih reply).1 hr
      exact ⟨⟨r, reply⟩ :: t₁, a, t₂, rfl, goes_ask.2 ⟨reply, t₁, rfl, h₁⟩, h₂⟩
    · rintro ⟨t₁, a, t₂, rfl, h₁, h₂⟩
      obtain ⟨reply, rest, rfl, hr⟩ := goes_ask.1 h₁
      exact goes_ask.2 ⟨reply, rest ++ t₂, rfl, (ih reply).2 ⟨rest, a, t₂, rfl, hr, h₂⟩⟩

theorem Leads.snoc {r : Request} {next : Reply r → Procedure Request Reply α}
    (h : p.Leads t (.ask r next)) (reply : Reply r) :
    p.Leads (t ++ [⟨r, reply⟩]) (next reply) := by
  induction t generalizing p with
  | nil =>
    obtain rfl := leads_nil.1 h
    exact ⟨reply, rfl, leads_nil.2 rfl⟩
  | cons x t ih =>
    cases p with
    | done result => exact h.elim
    | ask r' next' =>
      obtain ⟨reply', rfl, h⟩ := h
      exact ⟨reply', rfl, ih h⟩

end

/-! ### What a handler answers -/

/-- From the first state to the last, the handler answers the exchanges as they stand. -/
def Answers (handle : (r : Request) → σ → Option (Reply r × σ)) :
    σ → List (Exchange Request Reply) → σ → Prop
  | s, [], u => s = u
  | s, x :: t, u => ∃ m, handle x.request s = some (x.reply, m) ∧ Answers handle m t u

section
variable {handle : (r : Request) → σ → Option (Reply r × σ)} {s u : σ}

theorem answers_append {t₁ t₂ : List (Exchange Request Reply)} :
    Answers handle s (t₁ ++ t₂) u ↔ ∃ m, Answers handle s t₁ m ∧ Answers handle m t₂ u := by
  induction t₁ generalizing s with
  | nil => simp [Answers]
  | cons x t₁ ih =>
    constructor
    · rintro ⟨m, hx, h⟩
      obtain ⟨n, h₁, h₂⟩ := ih.1 h
      exact ⟨n, ⟨m, hx, h₁⟩, h₂⟩
    · rintro ⟨n, ⟨m, hx, h₁⟩, h₂⟩
      exact ⟨m, hx, ih.2 ⟨n, h₁, h₂⟩⟩

theorem goes_of_run {p : Procedure Request Reply α} {a : α} (h : p.run handle s = some (a, u)) :
    ∃ t, p.Goes t a ∧ Answers handle s t u := by
  induction p generalizing s with
  | done result =>
    simp only [run, Option.some.injEq, Prod.mk.injEq] at h
    exact ⟨[], goes_done.2 ⟨rfl, h.1.symm⟩, h.2⟩
  | ask r next ih =>
    simp only [run] at h
    split at h
    · rename_i reply m hr
      obtain ⟨t, ht, hu⟩ := ih reply h
      exact ⟨⟨r, reply⟩ :: t, goes_ask.2 ⟨reply, t, rfl, ht⟩, m, hr, hu⟩
    · cases h

end

end Procedure

end CloudTelemetry
