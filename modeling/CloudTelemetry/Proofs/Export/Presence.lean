import CloudTelemetry.Export.Rehearsal
import CloudTelemetry.Proofs.Export.Course
import CloudTelemetry.Proofs.Lifecycle.Gate
import CloudTelemetry.Proofs.Protocol

/-!
# Callers in an exporter

`presence` is the protocol of whatever an exporter is asked. An export works from the moment it has
begun until it ends; a shutdown that was told that it is the one closes the connection, and nobody
else does. Both exporters obey it whatever they are replied (`MetricExporter.orderly`,
`SpanExporter.orderly`). So every close has a shutdown of its own (`closes_of_leads`).
-/

namespace CloudTelemetry
open Procedure

def Call.isClose : Call → Bool
  | .close => true
  | _ => false

/-- What an export asks for between its begin and its end. -/
def Action.IsWork : Action → Prop
  | .claim _ | .settle _ _ | .log _ => True
  | .call c => c.isClose = false
  | _ => False

/-- Where a caller is. -/
inductive Presence where
  | outside
  /-- its export has begun -/
  | inside
  /-- its shutdown is the one -/
  | closing
  | gone
deriving DecidableEq

namespace Presence

def Allows : Presence → Action → Prop
  | .outside, .beginExport => True
  | .outside, .waitIdle _ => True
  | .outside, .shutDown _ => True
  | .outside, .state => True
  | .inside, .endExport => True
  | .inside, a => a.IsWork
  | .closing, .call .close => True
  | .gone, .log _ => True
  | _, _ => False

def after : Presence → (a : Action) → a.Reply → Presence
  | _, .beginExport, true => .inside
  | _, .beginExport, false => .gone
  | _, .endExport, _ => .gone
  | _, .waitIdle _, _ => .gone
  | _, .shutDown _, .ok true => .closing
  | _, .shutDown _, _ => .gone
  | _, .state, _ => .gone
  | _, .call .close, _ => .gone
  | g, _, _ => g

theorem Allows.cases {g : Presence} {a : Action} (h : g.Allows a) :
    (g = .outside ∧ (a = .beginExport ∨ (∃ patience, a = .waitIdle patience) ∨
      (∃ patience, a = .shutDown patience) ∨ a = .state)) ∨
    (g = .inside ∧ (a = .endExport ∨ a.IsWork)) ∨
    (g = .closing ∧ a = .call .close) ∨
    g = .gone ∧ ∃ entry, a = .log entry := by
  cases g with
  | outside =>
    cases a with
    | beginExport => exact .inl ⟨rfl, .inl rfl⟩
    | waitIdle patience => exact .inl ⟨rfl, .inr (.inl ⟨patience, rfl⟩)⟩
    | shutDown patience => exact .inl ⟨rfl, .inr (.inr (.inl ⟨patience, rfl⟩))⟩
    | state => exact .inl ⟨rfl, .inr (.inr (.inr rfl))⟩
    | endExport | isShutdown | claim | settle | call | log => exact h.elim
  | inside =>
    cases a with
    | endExport => exact .inr (.inl ⟨rfl, .inl rfl⟩)
    | beginExport | isShutdown | waitIdle | shutDown | state | claim | settle | call | log =>
      exact .inr (.inl ⟨rfl, .inr h⟩)
  | closing =>
    cases a with
    | call c =>
      cases c with
      | close => exact .inr (.inr (.inl ⟨rfl, rfl⟩))
      | createDescriptor | writeSeries | writeSpans => exact h.elim
    | beginExport | endExport | isShutdown | waitIdle | shutDown | state | claim | settle | log =>
      exact h.elim
  | gone =>
    cases a with
    | log entry => exact .inr (.inr (.inr ⟨rfl, entry, rfl⟩))
    | beginExport | endExport | isShutdown | waitIdle | shutDown | state | claim | settle | call =>
      exact h.elim

theorem Allows.call_cases {g : Presence} {c : Call} (h : g.Allows (.call c)) :
    g = .inside ∧ c.isClose = false ∨ g = .closing ∧ c = .close := by
  rcases h.cases with ⟨-, h | ⟨_, h⟩ | ⟨_, h⟩ | h⟩ | ⟨inside, h | work⟩ | ⟨closing, h⟩ | ⟨-, _, h⟩
  · cases h
  · cases h
  · cases h
  · cases h
  · cases h
  · exact .inl ⟨inside, work⟩
  · exact .inr ⟨closing, Action.call.inj h⟩
  · cases h

theorem Allows.eq_outside {g : Presence} {a : Action} (h : g.Allows a) (idle : ¬ a.IsWork)
    (stays : a ≠ .endExport) (leaves : a ≠ .call .close) : g = .outside := by
  rcases h.cases with ⟨out, -⟩ | ⟨-, ends | work⟩ | ⟨-, closes⟩ | ⟨-, entry, rfl⟩
  · exact out
  · exact absurd ends stays
  · exact absurd work idle
  · exact absurd closes leaves
  · exact absurd trivial idle

theorem after_of_isWork {a : Action} (work : a.IsWork) (g : Presence) (reply : a.Reply) :
    g.after a reply = g := by
  cases a with
  | claim | settle | log => rfl
  | call c =>
    cases c with
    | close => cases work
    | createDescriptor | writeSeries | writeSpans => rfl
  | beginExport | endExport | isShutdown | waitIdle | shutDown | state => exact work.elim

theorem after_ne_outside {g : Presence} {a : Action} (allowed : g.Allows a) (reply : a.Reply) :
    g.after a reply ≠ .outside := by
  rcases allowed.cases with ⟨rfl, rfl | ⟨patience, rfl⟩ | ⟨patience, rfl⟩ | rfl⟩ |
    ⟨rfl, rfl | work⟩ | ⟨rfl, rfl⟩ | ⟨rfl, entry, rfl⟩
  · cases reply <;> nofun
  · nofun
  · rcases reply with cause | _ | _ <;> nofun
  · nofun
  · nofun
  · rw [after_of_isWork work]
    nofun
  · nofun
  · nofun

end Presence

def presence : Protocol Action Action.Reply Presence where
  allows := Presence.Allows
  after := Presence.after

/-! ### What exporters are asked -/

variable {α β : Type} {signal : Signal} {operation : String}

/-- The procedure does the work of an export, and neither begins nor ends one. -/
abbrev Works (p : Steps α) : Prop := Obeys presence (fun g _ => g = .inside) .inside p

/-- The procedure comes from outside, and does not stay inside. -/
abbrev Visits (p : Steps α) : Prop := Obeys presence (fun g _ => g ≠ .inside) .outside p

theorem works_bind {p : Steps α} {f : α → Steps β} (hp : Works p) (hf : ∀ a, Works (f a)) :
    Works (p >>= f) :=
  stays_bind hp hf

theorem works_pure (a : α) : Works (pure a : Steps α) := obeys_pure rfl

theorem works_log (entry : LogEntry) : Works (Steps.log entry) :=
  obeys_request trivial fun _ => rfl

theorem works_call {c : Call} (h : c.isClose = false) : Works (Steps.call c) := by
  have work : (Action.call c).IsWork := h
  exact works_bind (obeys_request h fun reply => Presence.after_of_isWork work .inside reply)
    fun _ => works_pure _

theorem works_of_goes {p : Steps α} (h : ∀ {t a}, p.Goes t a → ∀ x ∈ t, x.request.IsWork) :
    Works p := by
  refine obeys_of_goes (fun a work => ⟨?_, Presence.after_of_isWork work .inside⟩) h
  cases a with
  | endExport => exact work.elim
  | beginExport | isShutdown | waitIdle | shutDown | state | claim | settle | call | log =>
    exact work

theorem visits_map {p : Steps α} (h : Visits p) (f : α → β) :
    Visits (do return f (← p) : Steps β) :=
  obeys_bind h fun _ _ hg => obeys_pure hg

theorem obeys_log_of_gone (entry : LogEntry) :
    Obeys presence (fun g _ => g = .gone) .gone (Steps.log entry) :=
  obeys_request trivial fun _ => rfl

theorem visits_exporting {batch : Steps (Except Failure ExportResult)} (h : Works batch) :
    Visits (Steps.exporting signal operation batch) := by
  have begins : Obeys presence (fun g begun => g = if begun then .inside else .gone) .outside
      (Steps.act .beginExport) := by
    refine obeys_request trivial fun begun => ?_
    cases begun <;> rfl
  have asksToEnd : Obeys presence (fun g _ => g = .gone) .inside (Steps.act .endExport) :=
    obeys_request trivial fun _ => rfl
  have ends : ∀ result : ExportResult, Obeys presence (fun g _ => g ≠ .inside) .inside
      (do Steps.act .endExport; return result : Steps ExportResult) := by
    intro result
    refine obeys_bind asksToEnd ?_
    rintro _ _ rfl
    exact obeys_pure nofun
  refine obeys_bind begins ?_
  rintro _ begun rfl
  cases begun with
  | false =>
    refine obeys_bind (obeys_log_of_gone _) ?_
    rintro _ _ rfl
    exact obeys_pure nofun
  | true =>
    refine obeys_bind h ?_
    rintro _ out rfl
    cases out with
    | ok result => exact ends result
    | error cause =>
      refine obeys_bind (works_log _) ?_
      rintro _ _ rfl
      exact ends .failure

theorem visits_flushing (millis : Value) : Visits (Steps.flushing millis) := by
  unfold Steps.flushing
  split
  · exact obeys_request trivial fun _ => nofun
  · exact obeys_pure nofun

theorem visits_shuttingDown (client : Client) (patience : Patience) :
    Visits (Steps.shuttingDown signal operation client patience) := by
  have asks : Obeys presence
      (fun g told => g = Presence.outside.after (.shutDown patience) told) .outside
      (Steps.act (.shutDown patience)) := obeys_request trivial fun _ => rfl
  have closes : Obeys presence (fun g _ => g = .gone) .closing (Steps.call .close) :=
    obeys_bind (obeys_request trivial fun _ => rfl) fun _ _ hg => obeys_pure hg
  have tells : ∀ entry, Obeys presence (fun g _ => g ≠ .inside) .gone
      (do Steps.log entry; return .ok () : Steps (Except Failure Unit)) := by
    intro entry
    refine obeys_bind (obeys_log_of_gone entry) ?_
    rintro _ _ rfl
    exact obeys_pure nofun
  refine obeys_bind asks ?_
  rintro _ (cause | _ | _) rfl
  · exact obeys_pure nofun
  · exact tells _
  · dsimp only
    split
    · refine obeys_bind closes ?_
      rintro _ outcome rfl
      cases outcome with
      | ok u => exact obeys_pure nofun
      | error cause => exact tells _
    · exact obeys_pure nofun

/-! ### Both exporters -/

def turnedAway (signal : Signal) : Steps (Except Failure Response) :=
  .ask (.log (.batchRefused signal)) fun _ => .done (.ok (.exported .failure))

/-- Whatever it is asked, an exporter keeps to the protocol, and it turns away exports that may not
begin. -/
structure Exporter.Orderly {Batch : Type} (e : Exporter Batch) (signal : Signal) : Prop where
  visits : ∀ request, Visits (e.answer request)
  refuses : ∀ request next, e.answer request = .ask .beginExport next →
    next false = turnedAway signal

theorem Exporter.orderly_of_parts {Batch : Type} {e : Exporter Batch}
    {body : Option Batch → Steps (Except Failure ExportResult)}
    (works : ∀ batch, Works (body batch))
    (exports : ∀ batch, e.exportBatch batch = Steps.exporting signal operation (body batch))
    (flushes : ∀ millis, ∃ time, e.forceFlush millis = Steps.flushing time)
    (shuts : ∀ millis, (∃ name patience,
      e.shutdown millis = Steps.shuttingDown signal name e.client patience) ∨
      ∃ cause, e.shutdown millis = pure (.error cause)) : e.Orderly signal where
  visits request := by
    cases request with
    | exportBatch batch =>
      show Visits (e.exportBatch batch >>= _)
      rw [exports]
      exact visits_map (visits_exporting (works batch)) _
    | forceFlush millis =>
      obtain ⟨time, flush⟩ := flushes millis
      show Visits (e.forceFlush millis >>= _)
      rw [flush]
      exact visits_map (visits_flushing time) _
    | shutdown millis =>
      show Visits (e.shutdown millis >>= _)
      rcases shuts millis with ⟨name, patience, shut⟩ | ⟨cause, shut⟩ <;> rw [shut]
      · exact visits_map (visits_shuttingDown e.client patience) _
      · exact obeys_pure nofun
    | state =>
      have asks : Visits (Steps.act .state) := obeys_request trivial fun _ => nofun
      exact visits_map asks _
    | projectName => exact obeys_pure nofun
  refuses request next h := by
    cases request with
    | exportBatch batch =>
      change (e.exportBatch batch).bind _ = _ at h
      rw [exports] at h
      cases h
      rfl
    | forceFlush millis =>
      obtain ⟨time, flush⟩ := flushes millis
      change (e.forceFlush millis).bind _ = _ at h
      rw [flush] at h
      unfold Steps.flushing at h
      split at h <;> cases h
    | shutdown millis =>
      change (e.shutdown millis).bind _ = _ at h
      rcases shuts millis with ⟨name, patience, shut⟩ | ⟨cause, shut⟩ <;> rw [shut] at h <;> cases h
    | state => cases h
    | projectName => cases h

namespace MetricExporter

theorem work_of_course {cs : List Candidate} {t : Trace} {fates : List Fate}
    (h : Course cs t fates) : ∀ x ∈ t, x.request.IsWork := by
  induction h with
  | nil => nofun
  | @cons c part fate rest later fates first next ih =>
    rw [List.forall_mem_append]
    refine ⟨?_, ih⟩
    cases first with
    | nothing => nofun
    | registered remembers ht =>
      subst ht
      cases remembers <;> simp [Action.IsWork, Call.isClose]
    | untranslated | skipped | refused => simp [Action.IsWork, Call.isClose]

theorem work_of_writing {e : MetricExporter} {runs : List (List (Nat × TimeSeries))} {t : Trace}
    {outcomes : List (Except Failure Unit)} (h : Writing e runs t outcomes) :
    ∀ x ∈ t, x.request.IsWork := by
  induction h with
  | nil => nofun
  | written next ih => exact List.forall_mem_cons.2 ⟨rfl, ih⟩
  | failed cause seen next ih =>
    exact List.forall_mem_cons.2 ⟨rfl, List.forall_mem_cons.2 ⟨trivial, ih⟩⟩

theorem works_send (e : MetricExporter) (batch : List ResourceMetrics) : Works (e.send batch) := by
  refine works_of_goes fun {t out} goes => ?_
  obtain ⟨first, _, second, rfl, gathering, writing⟩ := goes_bind.1 goes
  rw [List.forall_mem_append]
  rcases goes_gather gathering with ⟨fates, course, rfl⟩ |
    ⟨before, c, after, fates, cause, -, -, course, rfl⟩
  · refine ⟨work_of_course course, ?_⟩
    obtain ⟨_, counts, _, rfl, written, done⟩ := goes_bind.1 writing
    obtain ⟨rfl, -⟩ := goes_pure.1 done
    obtain ⟨runs, outcomes, writes, rfl, -⟩ := goes_write written
    rw [List.append_nil, List.forall_mem_append]
    refine ⟨work_of_writing writes, ?_⟩
    unfold MetricExporter.told
    split
    · nofun
    · exact List.forall_mem_singleton.2 trivial
  · obtain ⟨rfl, -⟩ := goes_pure.1 writing
    exact ⟨work_of_course course, nofun⟩

theorem orderly (e : MetricExporter) : e.exporter.Orderly .metrics := by
  refine Exporter.orderly_of_parts (fun batch => ?_) (fun batch => rfl)
    (fun millis => ⟨_, rfl⟩) fun millis => ?_
  · cases batch with
    | some batch => exact works_send e batch
    | none => exact works_pure _
  · show (∃ name patience, e.shutdown millis = _) ∨ ∃ cause, e.shutdown millis = _
    unfold MetricExporter.shutdown
    split
    · exact .inl ⟨_, _, rfl⟩
    · exact .inr ⟨_, rfl⟩

end MetricExporter

namespace SpanExporter

theorem works_gather (spans : List (String × Except Failure SentSpan)) : Works (gather spans) := by
  induction spans with
  | nil => exact works_pure _
  | cons span rest ih =>
    rcases span with ⟨name, cause | span⟩
    · unfold gather
      split
      · exact works_bind (works_log _) fun _ => works_bind ih fun _ => works_pure _
      · exact works_pure _
    · exact works_bind ih fun _ => works_pure _

theorem works_write (e : SpanExporter) (gathered : GatheredSpans) : Works (e.write gathered) := by
  unfold write
  dsimp only
  split
  · exact works_pure _
  · refine works_bind (works_call rfl) fun outcome => ?_
    cases outcome with
    | ok u => exact works_bind (works_log _) fun _ => works_pure _
    | error cause => exact works_bind (works_log _) fun _ => works_pure _

theorem works_send (e : SpanExporter) (batch : SpanBatch) : Works (e.send batch) := by
  refine works_bind (works_gather _) fun out => ?_
  cases out with
  | ok gathered => exact works_bind (works_write e gathered) fun _ => works_pure _
  | error cause => exact works_pure _

theorem orderly (e : SpanExporter) : e.exporter.Orderly .trace := by
  refine Exporter.orderly_of_parts (fun batch => ?_) (fun batch => rfl)
    (fun millis => ⟨_, rfl⟩) fun millis => ?_
  · cases batch with
    | some batch => exact works_send e batch
    | none => exact works_pure _
  · cases millis with
    | none => exact .inl ⟨_, _, rfl⟩
    | some value => exact .inr ⟨_, rfl⟩

end SpanExporter

/-! ### Counts along the way -/

def Presence.isClosing (g : Presence) : Nat := if g = .closing then 1 else 0

def Presence.isInside (g : Presence) : Nat := if g = .inside then 1 else 0

/-- How often it was told that a shutdown is the one. -/
def transitions (t : Trace) : Nat :=
  t.countP fun x => match x with
    | ⟨.shutDown _, .ok true⟩ => true
    | _ => false

def closes (calls : List Call) : Nat := calls.countP Call.isClose

theorem transitions_append (t u : Trace) : transitions (t ++ u) = transitions t + transitions u :=
  List.countP_append

theorem closes_append (a b : List Call) : closes (a ++ b) = closes a + closes b :=
  List.countP_append

theorem Presence.Allows.closes_le {g : Presence} {c : Call} (h : g.Allows (.call c)) :
    closes [c] ≤ g.isClosing := by
  rcases h.call_cases with ⟨-, work⟩ | ⟨rfl, rfl⟩
  · simp [closes, work]
  · exact Nat.le_refl 1

theorem closes_step {g : Presence} {a : Action} (allowed : g.Allows a) (reply : a.Reply) :
    closes ((Trace.calls [⟨a, reply⟩]).map Prod.fst) + (g.after a reply).isClosing =
      transitions [⟨a, reply⟩] + g.isClosing := by
  rcases allowed.cases with ⟨rfl, rfl | ⟨patience, rfl⟩ | ⟨patience, rfl⟩ | rfl⟩ |
    ⟨rfl, rfl | work⟩ | ⟨rfl, rfl⟩ | ⟨rfl, entry, rfl⟩
  · cases reply <;> rfl
  · rfl
  · rcases reply with cause | _ | _ <;> rfl
  · rfl
  · rfl
  · rw [Presence.after_of_isWork work]
    cases a with
    | claim | settle | log => rfl
    | call c =>
      cases c with
      | close => cases work
      | createDescriptor | writeSeries | writeSpans => rfl
    | beginExport | endExport | isShutdown | waitIdle | shutDown | state => exact work.elim
  · rfl
  · rfl

/-- Every close has a shutdown of its own. -/
theorem closes_of_leads {final : Presence → α → Prop} {g : Presence} {p q : Steps α} {t : Trace}
    (h : Obeys presence final g p) (hl : p.Leads t q) :
    closes (t.calls.map Prod.fst) + (presence.afterAll g t).isClosing =
      transitions t + g.isClosing := by
  refine h.along (motive := fun g t => closes ((Trace.calls t).map Prod.fst) +
    (presence.afterAll g t).isClosing = transitions t + g.isClosing) (fun _ => rfl) ?_ hl
  intro g r reply t allowed later
  have first := closes_step allowed reply
  have calls_eq : closes ((Trace.calls (⟨r, reply⟩ :: t)).map Prod.fst) =
      closes ((Trace.calls [⟨r, reply⟩]).map Prod.fst) + closes ((Trace.calls t).map Prod.fst) := by
    rw [← List.singleton_append, Trace.calls_append, List.map_append, closes_append]
  have told := transitions_append [⟨r, reply⟩] t
  rw [List.singleton_append] at told
  change _ + (presence.afterAll g (⟨r, reply⟩ :: t)).isClosing = _ + (g.after r reply).isClosing
    at later
  omega

theorem ne_outside_of_leads {final : Presence → α → Prop} {g : Presence} {p q : Steps α} {t : Trace}
    (h : Obeys presence final g p) (hl : p.Leads t q) (hg : g ≠ .outside) :
    presence.afterAll g t ≠ .outside := by
  refine h.along (motive := fun g t => g ≠ .outside → presence.afterAll g t ≠ .outside)
    (fun _ => id) ?_ hl hg
  intro g r reply t allowed ih _
  exact ih (Presence.after_ne_outside allowed reply)

theorem eq_nil_of_leads {final : Presence → α → Prop} {g : Presence} {p q : Steps α} {t : Trace}
    (h : Obeys presence final g p) (hl : p.Leads t q) (out : presence.afterAll g t = .outside) :
    t = [] := by
  cases t with
  | nil => rfl
  | cons x t =>
    cases p with
    | done result => exact hl.elim
    | ask r next =>
      obtain ⟨reply, rfl, hl⟩ := hl
      have left := ne_outside_of_leads (h.2 reply) hl (Presence.after_ne_outside h.1 reply)
      exact absurd out left

end CloudTelemetry
