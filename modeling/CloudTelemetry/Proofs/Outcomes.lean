import CloudTelemetry.Value.Number
import Mathlib.Algebra.Group.Int.Defs
import Mathlib.Data.List.Forall2
import Mathlib.Data.Set.List

/-!
# Outcomes of conversions

Which integers have 64 bits (`fitsInt64_iff`), and what it means that one after another of a list
is put in another form, each of which may fail: either all succeed (`mapM_eq_ok_iff`), or one fails,
and those before it succeed (`mapM_eq_error_iff`). `Ends` says of an outcome under which condition
it is a result.
-/

namespace CloudTelemetry

/-! ### Integers of 64 bits -/

def IsInt64 (n : Int) : Prop := -2 ^ 63 ≤ n ∧ n < 2 ^ 63

instance (n : Int) : Decidable (IsInt64 n) := inferInstanceAs (Decidable (_ ∧ _))

theorem fitsInt64_iff {n : Int} : fitsInt64 n = true ↔ IsInt64 n := by
  unfold fitsInt64 IsInt64 leastInt64 greatestInt64
  rw [Bool.and_eq_true, decide_eq_true_iff, decide_eq_true_iff]
  omega

/-! ### Lists -/

variable {α β : Type} {f : α → Except Failure β} {as : List α}

theorem mapM_cons_ok {a : α} {b : β} (h : f a = .ok b) :
    (a :: as).mapM f = (as.mapM f).map (b :: ·) := by
  rw [List.mapM_cons, h]
  cases as.mapM f <;> rfl

theorem mapM_cons_error {a : α} {cause : Failure} (h : f a = .error cause) :
    (a :: as).mapM f = .error cause := by
  rw [List.mapM_cons, h]
  rfl

theorem mapM_eq_ok_iff {bs : List β} :
    as.mapM f = .ok bs ↔ List.Forall₂ (fun a b => f a = .ok b) as bs := by
  induction as generalizing bs with
  | nil =>
    rw [List.forall₂_nil_left_iff, List.mapM_nil]
    exact ⟨fun h => (Except.ok.inj h).symm, fun h => congrArg _ h.symm⟩
  | cons a as ih =>
    rw [List.forall₂_cons_left_iff]
    cases hf : f a with
    | error cause =>
      rw [mapM_cons_error hf]
      constructor
      · nofun
      · rintro ⟨b, bs, h, -⟩
        cases h
    | ok b =>
      rw [mapM_cons_ok hf]
      constructor
      · intro h
        cases rest : as.mapM f with
        | error cause => rw [rest] at h; cases h
        | ok cs =>
          rw [rest] at h
          exact ⟨b, cs, rfl, ih.1 rest, (Except.ok.inj h).symm⟩
      · rintro ⟨c, cs, h, rest, rfl⟩
        cases h
        rw [ih.2 rest]
        rfl

theorem mapM_eq_error_iff {cause : Failure} :
    as.mapM f = .error cause ↔ ∃ before a after, as = before ++ a :: after ∧
      (∀ x ∈ before, ∃ b, f x = .ok b) ∧ f a = .error cause := by
  induction as with
  | nil => simp [pure, Except.pure]
  | cons a as ih =>
    cases hf : f a with
    | error other =>
      rw [mapM_cons_error hf]
      constructor
      · rintro ⟨⟩
        exact ⟨[], a, as, rfl, nofun, hf⟩
      · rintro ⟨before, x, after, split, well, hx⟩
        cases before with
        | nil =>
          obtain ⟨rfl, rfl⟩ := List.cons.inj split
          cases hf.symm.trans hx
          rfl
        | cons y before =>
          obtain ⟨rfl, rfl⟩ := List.cons.inj split
          obtain ⟨b, hb⟩ := well _ List.mem_cons_self
          rw [hb] at hf
          cases hf
    | ok b =>
      have rest : (a :: as).mapM f = .error cause ↔ as.mapM f = .error cause := by
        rw [mapM_cons_ok hf]
        cases as.mapM f <;> simp [Except.map]
      rw [rest, ih]
      constructor
      · rintro ⟨before, x, after, rfl, well, hx⟩
        exact ⟨a :: before, x, after, rfl, List.forall_mem_cons.2 ⟨⟨b, hf⟩, well⟩, hx⟩
      · rintro ⟨before, x, after, split, well, hx⟩
        cases before with
        | nil =>
          obtain ⟨rfl, rfl⟩ := List.cons.inj split
          rw [hx] at hf
          cases hf
        | cons y before =>
          obtain ⟨rfl, rfl⟩ := List.cons.inj split
          exact ⟨before, x, after, rfl, (List.forall_mem_cons.1 well).2, hx⟩

theorem mapM_map_of_reads {f : β → Except Failure α} {g : α → β} (reads : ∀ a, f (g a) = .ok a)
    (as : List α) : (as.map g).mapM f = .ok as := by
  induction as with
  | nil => rfl
  | cons a as ih =>
    rw [List.map_cons, mapM_cons_ok (reads a), ih]
    rfl

theorem exists_eq_map {g : α → β} {bs : List β} (h : ∀ b ∈ bs, ∃ a, b = g a) :
    ∃ as : List α, bs = as.map g := by
  have written : bs ∈ Set.range (List.map g) := by
    rw [Set.range_list_map]
    exact fun b hb => (h b hb).imp fun _ => Eq.symm
  obtain ⟨as, rfl⟩ := written
  exact ⟨as, rfl⟩

/-! ### Outcomes under a condition -/

/-- Under a condition the outcome is a result of a kind, and otherwise a failure of a kind. -/
inductive Ends {α : Type} (failure : Failure → Prop) (condition : Prop) (kind : α → Prop) :
    Except Failure α → Prop
  | holds {a : α} (yes : condition) (sort : kind a) : Ends failure condition kind (.ok a)
  | fails {cause : Failure} (no : ¬ condition) (sort : failure cause) :
    Ends failure condition kind (.error cause)

namespace Ends

variable {failure : Failure → Prop} {condition also : Prop} {kind wider : α → Prop}
  {sort : β → Prop} {x : Except Failure α}

theorem bind {f : α → Except Failure β} (h : Ends failure condition kind x)
    (next : ∀ a, kind a → Ends failure also sort (f a)) :
    Ends failure (condition ∧ also) sort (x >>= f) := by
  cases h with
  | fails no failed => exact .fails (fun both => no both.1) failed
  | @holds a yes here =>
    have later := next a here
    show Ends _ _ _ (f a)
    generalize f a = y at later
    cases later with
    | holds yes' there => exact .holds ⟨yes, yes'⟩ there
    | fails no failed => exact .fails (fun both => no both.2) failed

theorem bind_pure (h : Ends failure condition kind x) {f : α → β}
    (next : ∀ a, kind a → sort (f a)) :
    Ends failure condition sort (do return f (← x)) := by
  cases h with
  | holds yes here => exact .holds yes (next _ here)
  | fails no failed => exact .fails no failed

theorem map (h : Ends failure condition kind x) {f : α → β} (next : ∀ a, kind a → sort (f a)) :
    Ends failure condition sort (f <$> x) := by
  rw [map_eq_pure_bind]
  exact h.bind_pure next

theorem imp (h : Ends failure condition kind x) (same : condition ↔ also)
    (wide : ∀ a, kind a → wider a) : Ends failure also wider x := by
  cases h with
  | holds yes here => exact .holds (same.1 yes) (wide _ here)
  | fails no failed => exact .fails (fun yes => no (same.2 yes)) failed

theorem weaken {other : Failure → Prop} (h : Ends failure condition kind x)
    (also : ¬ condition → ∀ cause, failure cause → other cause) :
    Ends other condition kind x := by
  cases h with
  | holds yes here => exact .holds yes here
  | fails no failed => exact .fails no (also no _ failed)

theorem check [Decidable condition] {a : α} {cause : Failure} (good : condition → kind a)
    (bad : failure cause) :
    Ends failure condition kind (if condition then .ok a else .error cause) := by
  split
  · exact .holds ‹_› (good ‹_›)
  · exact .fails ‹_› bad

theorem exists_ok_iff (h : Ends failure condition kind x) : (∃ a, x = .ok a) ↔ condition := by
  cases h with
  | holds yes => exact iff_of_true ⟨_, rfl⟩ yes
  | fails no => exact iff_of_false nofun no

theorem exists_error (h : Ends failure condition kind x) (no : ¬ condition) :
    ∃ cause, x = .error cause ∧ failure cause := by
  cases h with
  | holds yes => exact (no yes).elim
  | fails _ failed => exact ⟨_, rfl, failed⟩

theorem kind_of_ok {a : α} (h : Ends failure condition kind x) (ok : x = .ok a) : kind a := by
  subst ok
  cases h with
  | holds _ here => exact here

theorem mapM {ready : α → Prop} {shape : α → β → Prop}
    (h : ∀ a ∈ as, Ends failure (ready a) (shape a) (f a)) :
    Ends failure (∀ a ∈ as, ready a) (List.Forall₂ shape as) (as.mapM f) := by
  induction as with
  | nil => exact .holds nofun .nil
  | cons a as ih =>
    obtain ⟨first, rest⟩ := List.forall_mem_cons.1 h
    rw [List.mapM_cons, List.forall_mem_cons]
    exact first.bind fun b hb => (ih rest).bind_pure fun bs hbs => .cons hb hbs

theorem forM {ready : α → Prop} {f : α → Except Failure PUnit}
    (h : ∀ a ∈ as, Ends failure (ready a) (fun _ => True) (f a)) :
    Ends failure (∀ a ∈ as, ready a) (fun _ => True) (as.forM f) := by
  induction as with
  | nil => exact .holds nofun trivial
  | cons a as ih =>
    obtain ⟨first, rest⟩ := List.forall_mem_cons.1 h
    rw [List.forall_mem_cons]
    show Ends _ _ _ (f a >>= fun _ => as.forM f)
    exact first.bind fun _ _ => ih rest

end Ends

/-! ### Written forms -/

namespace Value

theorem ends_checkWritable (v : Value) :
    Ends (· = .defect .badValue) (v.isWritable = true) (fun _ => True) v.checkWritable :=
  .check (fun _ => trivial) rfl

theorem ends_inText (v : Value) :
    Ends (· = .defect .badValue) (v.isWritable = true) (· = v.shown) v.inText :=
  v.ends_checkWritable.bind_pure fun _ _ => rfl

end Value

end CloudTelemetry
