import CloudTelemetry.Proofs.Export.Presence

/-!
# Scripts as services

A rehearsal follows a `Script`. Where the script asks nothing while calls are in progress, and calls
can be made at all, the exporter is answered as by one `Service`: `Script.service` refuses a call by
the calls that were made before it. So a rehearsal is a run of an export that is alone, and all that
is known of these holds of it (`Stage.step_eq_served`).
-/

namespace CloudTelemetry
open Procedure

variable {Batch α : Type}

def Call.isWriting : Call → Bool
  | .writeSeries _ | .writeSpans _ => true
  | _ => false

namespace Script

/-- Nothing is asked while a call is in progress. -/
def Silent (script : Script Batch) : Prop := ∀ c, script.meanwhile c = []

def service (script : Script Batch) : Service := fun past c =>
  if script.refuses (past.countP Call.isWriting) c then .error (.incident script.incident) else .ok ()

theorem refuses_of_not_isWriting (script : Script Batch) {c : Call} (h : c.isWriting = false)
    (n m : Nat) : script.refuses n c = script.refuses m c := by
  cases c with
  | createDescriptor | close => rfl
  | writeSeries | writeSpans => cases h

end Script

namespace Stage

variable {script : Script Batch} {g : Presence} {s u : Stage Batch} {e : Exporter Batch}

/-- The stage of a caller: before its export nothing has been called, and the writes are counted
while it is in progress. -/
structure Follows (script : Script Batch) (g : Presence) (s : Stage Batch) : Prop where
  script_eq : s.script = script
  fresh : g = .outside → s.calls = []
  counted : g = .inside → s.writes = (s.calls.map CallRecord.call).countP Call.isWriting

theorem writes_counting (s : Stage Batch) (c : Call) :
    (s.counting c).writes = s.writes + if c.isWriting then 1 else 0 := by
  cases c <;> rfl

theorem counting_eq (s : Stage Batch) (c : Call) :
    s.counting c = { s with writes := (s.counting c).writes } := by
  cases c <;> rfl

theorem call_eq_served {deadline : Binary64} (possible : e.client.deadline.toBinary64 = .ok deadline)
    (silent : script.Silent) (follows : Follows script g s) {c : Call}
    (allowed : g.Allows (.call c)) :
    call e.client (scripted e) c s = served script.service c s := by
  have may : mayCall e.client c = .ok () := by
    unfold mayCall
    rw [possible]
    cases c <;> rfl
  have told : s.script.refuses s.writes c =
      script.refuses ((s.calls.map CallRecord.call).countP Call.isWriting) c := by
    rw [follows.script_eq]
    rcases allowed.call_cases with ⟨inside, -⟩ | ⟨-, rfl⟩
    · rw [follows.counted inside]
    · exact script.refuses_of_not_isWriting rfl _ _
  have quiet : scripted e c { s.counting c with calls := [] } =
      some (.ok [], { s.counting c with calls := [] }) := by
    unfold scripted
    rw [show (s.counting c).script = script by rw [counting_eq, follows.script_eq], silent c]
    rfl
  unfold call
  rw [may]
  show s.perform (scripted e) c = _
  unfold perform served Script.service
  rw [quiet, told, follows.script_eq]
  rfl

theorem handle_keeps {carry : Carrier Batch} {a : Action} {reply : a.Reply}
    (h : handle carry a s = some (reply, u)) (other : ∀ c, a ≠ .call c) :
    u.script = s.script ∧ u.calls = s.calls ∧ (a ≠ .beginExport → u.writes = s.writes) := by
  cases a with
  | call c => exact (other c rfl).elim
  | beginExport =>
    cases h
    exact ⟨rfl, rfl, fun ne => (ne rfl).elim⟩
  | claim id =>
    simp only [handle] at h
    split at h <;> cases h <;> exact ⟨rfl, rfl, fun _ => rfl⟩
  | waitIdle | shutDown =>
    simp only [handle] at h
    split at h
    · cases h
      exact ⟨rfl, rfl, fun _ => rfl⟩
    · obtain ⟨_, -, h⟩ := Option.map_eq_some_iff.1 h
      cases h
      exact ⟨rfl, rfl, fun _ => rfl⟩
  | endExport | isShutdown | state | settle | log =>
    cases h
    exact ⟨rfl, rfl, fun _ => rfl⟩

theorem inside_of_after {a : Action} {reply : a.Reply} (allowed : g.Allows a)
    (inside : g.after a reply = .inside) : g = .inside ∨ a = .beginExport := by
  rcases allowed.cases with ⟨rfl, rfl | ⟨patience, rfl⟩ | ⟨patience, rfl⟩ | rfl⟩ |
    ⟨rfl, -⟩ | ⟨rfl, rfl⟩ | ⟨rfl, entry, rfl⟩
  · exact .inr rfl
  · cases inside
  · rcases reply with cause | _ | _ <;> cases inside
  · cases inside
  · exact .inl rfl
  · cases inside
  · cases inside

theorem Follows.handle {a : Action} {reply : a.Reply} (follows : Follows script g s)
    (allowed : g.Allows a) (h : Stage.handle (served script.service) a s = some (reply, u)) :
    Follows script (g.after a reply) u := by
  have away : g.after a reply ≠ .outside := Presence.after_ne_outside allowed reply
  by_cases calls : ∃ c, a = .call c
  · obtain ⟨c, rfl⟩ := calls
    cases h
    refine ⟨?_, fun out => (away out).elim, fun inside => ?_⟩
    · rw [← follows.script_eq, counting_eq]
    · have before : g = .inside := (inside_of_after allowed inside).resolve_right nofun
      show (s.counting c).writes = _
      rw [writes_counting, follows.counted before]
      simp
  · obtain ⟨same, made, writes⟩ := handle_keeps h fun c hc => calls ⟨c, hc⟩
    refine ⟨same.trans follows.script_eq, fun out => (away out).elim, fun inside => ?_⟩
    rcases inside_of_after allowed inside with rfl | rfl
    · have within : a ≠ .beginExport := by
        rintro rfl
        exact allowed
      rw [made, writes within, follows.counted rfl]
    · have out : g = .outside := allowed.eq_outside id nofun nofun
      cases h
      rw [follows.fresh out]
      rfl

theorem run_scripted {p : Steps α} {deadline : Binary64}
    (possible : e.client.deadline.toBinary64 = .ok deadline) (silent : s.script.Silent)
    (visits : Visits p) (fresh : s.calls = []) :
    p.run (handle (call e.client (scripted e))) s = p.run (handle (served s.script.service)) s := by
  have follows : Follows s.script .outside s := ⟨rfl, fun _ => fresh, nofun⟩
  have alike : ∀ (g : Presence) (m : Stage Batch) (a : Action), g.Allows a →
      Follows s.script g m →
      handle (call e.client (scripted e)) a m = handle (served s.script.service) a m := by
    intro g m a allowed follows
    cases a with
    | call c => exact call_eq_served possible silent follows allowed
    | beginExport | endExport | isShutdown | waitIdle | shutDown | state | claim | settle | log =>
      rfl
  refine visits.run_congr (Follows s.script) alike ?_ follows
  intro g m a reply u allowed follows answer
  rw [alike g m a allowed follows] at answer
  exact follows.handle allowed answer

/-- A rehearsal whose script asks nothing meanwhile is what comes of the exporter alone, at the
service that the script stands for. -/
theorem step_eq_served {signal : Signal} {deadline : Binary64} (orderly : e.Orderly signal)
    (possible : e.client.deadline.toBinary64 = .ok deadline) (silent : s.script.Silent)
    (request : Request Batch) :
    s.step e request =
      (e.answer request).run (handle (served s.script.service)) { s with calls := [], log := [] } :=
  run_scripted (s := { s with calls := [], log := [] }) possible silent (orderly.visits request) rfl

end Stage

end CloudTelemetry
