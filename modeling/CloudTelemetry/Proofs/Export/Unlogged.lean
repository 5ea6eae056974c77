import CloudTelemetry.Export.Rehearsal

/-!
# Runs but for the log

What comes of a procedure that is alone, with the log left out (`Stage.comes`). No action looks at
the log, so what comes of a composed procedure is found part by part (`comes_bind`). Two exports
that differ in what they tell are compared in this way.
-/

namespace CloudTelemetry

namespace Stage
open Procedure

variable {Batch α β γ δ : Type} (service : Service)

def unlogged (s : Stage Batch) : Stage Batch := { s with log := [] }

theorem eq_of_unlogged {s u : Stage Batch} (h : s.unlogged = u.unlogged) :
    u = { s with log := u.log } :=
  calc
    u = { u.unlogged with log := u.log } := rfl
    _ = { s.unlogged with log := u.log } := by rw [h]
    _ = { s with log := u.log } := rfl

/-- What comes of a procedure that is alone, but for the log. -/
def comes (p : Steps α) (s : Stage Batch) : Option (α × Stage Batch) :=
  (p.run (handle (served service)) s).map (Prod.map id unlogged)

theorem handle_unlogged (a : Action) (s : Stage Batch) :
    (handle (served service) a s.unlogged).map (Prod.map id unlogged) =
      (handle (served service) a s).map (Prod.map id unlogged) := by
  cases a with
  | beginExport | endExport | isShutdown | state | settle | log => rfl
  | call c => cases c <;> rfl
  | claim id =>
    simp only [handle, unlogged]
    cases s.cache.claim id <;> rfl
  | waitIdle | shutDown =>
    have lifecycle : s.unlogged.lifecycle = s.lifecycle := rfl
    simp only [handle, lifecycle]
    split
    · rfl
    · rw [Option.map_map, Option.map_map]
      rfl

theorem comes_unlogged (p : Steps α) (s : Stage Batch) :
    comes service p s.unlogged = comes service p s := by
  induction p generalizing s with
  | done result => rfl
  | ask r next ih =>
    have same := handle_unlogged service r s
    unfold comes Procedure.run
    cases h : handle (served service) r s with
    | none =>
      rw [h, Option.map_none, Option.map_eq_none_iff] at same
      rw [same]
    | some out =>
      rw [h, Option.map_some, Option.map_eq_some_iff] at same
      obtain ⟨⟨reply, u⟩, answer, same⟩ := same
      obtain ⟨reply', v⟩ := out
      obtain ⟨rfl, alike⟩ := Prod.mk.inj same
      rw [answer]
      show comes service (next reply) u = comes service (next reply) v
      rw [← ih reply u, ← ih reply v]
      exact congrArg _ alike

theorem comes_bind (p : Steps α) (f : α → Steps β) (s : Stage Batch) :
    comes service (p >>= f) s =
      (comes service p s).bind fun out => comes service (f out.1) out.2 := by
  unfold comes
  rw [bind_eq, run_bind]
  cases p.run (handle (served service)) s with
  | none => rfl
  | some out => exact (comes_unlogged service (f out.1) out.2).symm

theorem comes_map (p : Steps α) (f : α → β) (s : Stage Batch) :
    comes service (do return f (← p)) s = (comes service p s).map (Prod.map f id) := by
  rw [comes_bind]
  unfold comes
  cases p.run (handle (served service)) s <;> rfl

/-- What comes of one procedure is what comes of another, in a different form. -/
def ComesBy (Batch : Type) (service : Service) (form : β → α) (p : Steps α) (q : Steps β) : Prop :=
  ∀ s : Stage Batch, comes service p s = (comes service q s).map (Prod.map form id)

namespace ComesBy

variable {service} {form : β → α} {form' : δ → γ} {p : Steps α} {q : Steps β}

theorem refl (p : Steps α) : ComesBy Batch service id p p := by
  intro s
  rw [Prod.map_id, Option.map_id, id]

theorem bind {f : α → Steps γ} {g : β → Steps δ} (first : ComesBy Batch service form p q)
    (next : ∀ b, ComesBy Batch service form' (f (form b)) (g b)) :
    ComesBy Batch service form' (p >>= f) (q >>= g) := by
  intro s
  rw [comes_bind, comes_bind, first, Option.bind_map, Option.map_bind]
  congr 1
  funext ⟨b, u⟩
  exact next b u

theorem map {f : α → γ} {g : β → δ} (first : ComesBy Batch service form p q)
    (same : ∀ b, f (form b) = form' (g b)) :
    ComesBy Batch service form' (do return f (← p)) (do return g (← q)) := by
  intro s
  rw [comes_map, comes_map, first, Option.map_map, Option.map_map]
  congr 1
  funext ⟨b, u⟩
  exact congrArg (·, u) (same b)

end ComesBy

end Stage

end CloudTelemetry
