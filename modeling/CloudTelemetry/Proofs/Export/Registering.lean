import CloudTelemetry.Proofs.Metric.Record
import CloudTelemetry.Proofs.Protocol

/-!
# How exports register descriptors

`registering` is the protocol by which an export claims an identity, calls the service with a
descriptor of that identity, and settles the claim by the outcome, before it does anything else but
log. Every export of metrics obeys it, whatever it is replied (`registers_exportBatch`).
-/

namespace CloudTelemetry

/-- Where an export is in the registration of a descriptor. -/
inductive Registering where
  | no
  /-- it was told to register -/
  | claimed (id : Identity)
  /-- the service has answered -/
  | answered (id : Identity) (succeeded : Bool)
deriving DecidableEq

namespace Registering

def id? : Registering → Option Identity
  | .no => none
  | .claimed id | .answered id _ => some id

/-- What an export may ask for. -/
def Allows (target : MetricTarget) : Registering → Action → Prop
  | .no, .beginExport => True
  | .no, .endExport => True
  | .no, .claim _ => True
  | .no, .call (.writeSeries _) => True
  | .claimed id, .call (.createDescriptor d) => d.identity = id ∧ d.type = target.typeOf id
  | .answered id succeeded, .settle x b => x = id ∧ b = succeeded
  | _, .log _ => True
  | _, _ => False

theorem Allows.cases {target : MetricTarget} {g : Registering} {a : Action}
    (h : g.Allows target a) :
    (∃ entry, a = .log entry) ∨
    (g = .no ∧ (a = .beginExport ∨ a = .endExport ∨ (∃ id, a = .claim id) ∨
      ∃ series, a = .call (.writeSeries series))) ∨
    (∃ d, g = .claimed d.identity ∧ a = .call (.createDescriptor d) ∧
      d.type = target.typeOf d.identity) ∨
    ∃ id succeeded, g = .answered id succeeded ∧ a = .settle id succeeded := by
  cases a with
  | log entry => exact .inl ⟨entry, rfl⟩
  | beginExport =>
    cases g with
    | no => exact .inr (.inl ⟨rfl, .inl rfl⟩)
    | claimed | answered => exact h.elim
  | endExport =>
    cases g with
    | no => exact .inr (.inl ⟨rfl, .inr (.inl rfl)⟩)
    | claimed | answered => exact h.elim
  | claim id =>
    cases g with
    | no => exact .inr (.inl ⟨rfl, .inr (.inr (.inl ⟨id, rfl⟩))⟩)
    | claimed | answered => exact h.elim
  | call c =>
    cases g with
    | no =>
      cases c with
      | writeSeries series => exact .inr (.inl ⟨rfl, .inr (.inr (.inr ⟨series, rfl⟩))⟩)
      | createDescriptor | writeSpans | close => exact h.elim
    | claimed id =>
      cases c with
      | createDescriptor d =>
        obtain ⟨rfl, type_eq⟩ := h
        exact .inr (.inr (.inl ⟨d, rfl, rfl, type_eq⟩))
      | writeSeries | writeSpans | close => exact h.elim
    | answered => exact h.elim
  | settle id succeeded =>
    cases g with
    | answered x b =>
      obtain ⟨rfl, rfl⟩ := h
      exact .inr (.inr (.inr ⟨id, succeeded, rfl, rfl⟩))
    | no | claimed => exact h.elim
  | isShutdown | state | waitIdle | shutDown => cases g <;> exact h.elim

theorem Allows.eq_no {target : MetricTarget} {g : Registering} {id : Identity}
    (h : g.Allows target (.claim id)) : g = .no := by
  cases g with
  | no => rfl
  | claimed | answered => exact h.elim

def after : Registering → (a : Action) → a.Reply → Registering
  | _, .claim id, true => .claimed id
  | .claimed id, .call (.createDescriptor _), outcome => .answered id outcome.isOk
  | _, .settle _ _, _ => .no
  | g, _, _ => g

end Registering

def registering (target : MetricTarget) : Protocol Action Action.Reply Registering where
  allows := Registering.Allows target
  after := Registering.after

namespace MetricExporter
open Procedure

variable {e : MetricExporter} {target : MetricTarget} {α : Type}

/-- The procedure keeps to the protocol, and ends with nothing to register. -/
abbrev Registers (target : MetricTarget) (p : Steps α) : Prop :=
  Obeys (registering target) (fun g _ => g = .no) .no p

theorem registers_bind {β : Type} {p : Steps α} {f : α → Steps β} (hp : Registers target p)
    (hf : ∀ a, Registers target (f a)) : Registers target (p >>= f) :=
  stays_bind hp hf

theorem registers_pure (a : α) : Registers target (pure a : Steps α) := obeys_pure rfl

theorem registers_act (a : Action) (allowed : Registering.Allows target .no a)
    (h : ∀ reply, Registering.after .no a reply = .no) : Registers target (Steps.act a) :=
  obeys_request allowed h

theorem registers_log (entry : LogEntry) : Registers target (Steps.log entry) :=
  registers_act _ trivial fun _ => rfl

theorem registers_ensureDescriptor {record : MetricRecord}
    (h : target.Belongs record) : Registers target (ensureDescriptor record) := by
  refine ⟨trivial, fun claimed => ?_⟩
  cases claimed with
  | false => exact rfl
  | true =>
    refine ⟨⟨h.identity, h.type⟩, fun outcome => ?_⟩
    cases outcome with
    | ok u =>
      refine ⟨⟨rfl, rfl⟩, fun remembers => ?_⟩
      cases remembers with
      | false => exact rfl
      | true => exact ⟨trivial, fun _ => rfl⟩
    | error cause => exact ⟨⟨rfl, rfl⟩, fun _ => rfl⟩

theorem registers_drop (name : String) (cause : Failure) : Registers target (drop name cause) := by
  unfold drop
  split
  · exact registers_bind (registers_log _) fun _ => registers_pure _
  · exact registers_pure _

theorem registers_judge {c : Candidate}
    (h : ∀ record, c.record? = some record → target.Belongs record) :
    Registers target (judge c) := by
  rcases c with ⟨name, cause | _ | record⟩ | cause
  · exact registers_drop name cause
  · exact registers_pure _
  · refine registers_bind (registers_ensureDescriptor (h record rfl)) fun a => ?_
    cases a with
    | ok u => exact registers_pure _
    | error cause => exact registers_drop name cause
  · exact registers_pure _

theorem registers_gather {cs : List Candidate}
    (h : ∀ c ∈ cs, ∀ record, c.record? = some record → target.Belongs record) :
    Registers target (gather cs) := by
  induction cs with
  | nil => exact registers_pure _
  | cons c cs ih =>
    rw [List.forall_mem_cons] at h
    refine registers_bind (registers_judge h.1) fun v => ?_
    cases v with
    | nothing => exact ih h.2
    | accepted record => exact registers_bind (ih h.2) fun _ => registers_pure _
    | dropped => exact registers_bind (ih h.2) fun _ => registers_pure _
    | fatal cause => exact registers_pure _

theorem registers_writeRuns (runs : List (List (Nat × TimeSeries))) :
    Registers target (e.writeRuns runs) := by
  induction runs with
  | nil => exact registers_pure _
  | cons run runs ih =>
    refine registers_bind ?_ fun outcome => ?_
    · exact registers_bind (registers_act (.call _) trivial fun _ => rfl) fun _ => registers_pure _
    · cases outcome with
      | ok u => exact ih
      | error cause =>
        exact registers_bind (registers_log _) fun _ =>
          registers_bind ih fun _ => registers_pure _

theorem registers_write (records : List MetricRecord) : Registers target (e.write records) := by
  refine registers_bind (registers_writeRuns _) fun hit => ?_
  dsimp only
  split
  · exact registers_bind (registers_log _) fun _ => registers_pure _
  · exact registers_pure _

theorem registers_send (batch : List ResourceMetrics) : Registers e.target (e.send batch) := by
  refine registers_bind (registers_gather fun c hc record hr =>
    MetricTarget.belongs_of_mem_candidates hc hr) fun out => ?_
  cases out with
  | ok gathered => exact registers_bind (registers_write _) fun _ => registers_pure _
  | error cause => exact registers_pure _

theorem registers_exporting {signal : Signal} {operation : String}
    {batch : Steps (Except Failure ExportResult)} (h : Registers target batch) :
    Registers target (Steps.exporting signal operation batch) := by
  refine registers_bind (registers_act .beginExport trivial fun _ => rfl) fun begun => ?_
  cases begun with
  | false => exact registers_bind (registers_log _) fun _ => registers_pure _
  | true =>
    have ends : ∀ result : ExportResult,
        Registers target (do Steps.act .endExport; return result) := fun result =>
      registers_bind (registers_act .endExport trivial fun _ => rfl) fun _ => registers_pure _
    refine registers_bind h fun out => ?_
    cases out with
    | ok result => exact registers_bind (registers_pure _) ends
    | error cause =>
      exact registers_bind (registers_log _) fun _ => registers_bind (registers_pure _) ends

theorem registers_exportBatch (batch : Option (List ResourceMetrics)) :
    Registers e.target (e.exportBatch batch) := by
  cases batch with
  | some batch => exact registers_exporting (registers_send batch)
  | none => exact registers_exporting (registers_pure _)

end MetricExporter

/-! ### What is registered along the way -/

def Call.declares (id : Identity) : Call → Bool
  | .createDescriptor d => d.identity == id
  | _ => false

def acceptances (id : Identity) (t : Trace) : Nat :=
  t.calls.countP fun x => x.1.declares id && x.2.isOk

def settlements (id : Identity) (t : Trace) : Nat :=
  t.countP fun x => match x with
    | ⟨.settle y true, _⟩ => y == id
    | _ => false

theorem Registering.id?_after {target : MetricTarget} {g : Registering} {a : Action}
    (allowed : g.Allows target a) (claim : ∀ id, a ≠ .claim id)
    (settle : ∀ id b, a ≠ .settle id b) (reply : a.Reply) : (g.after a reply).id? = g.id? := by
  rcases allowed.cases with ⟨entry, rfl⟩ | ⟨rfl, rfl | rfl | ⟨x, rfl⟩ | ⟨series, rfl⟩⟩ |
    ⟨d, rfl, rfl, -⟩ | ⟨x, succeeded, rfl, rfl⟩
  · cases g <;> rfl
  · rfl
  · rfl
  · exact absurd rfl (claim x)
  · rfl
  · rfl
  · exact absurd rfl (settle x succeeded)

/-- Whether a registration succeeded of which the cache is still to be told. -/
def Registering.due (id : Identity) (g : Registering) : Nat :=
  if g = .answered id true then 1 else 0

section
open Procedure
variable {target : MetricTarget} {g : Registering} {α : Type} {p q : Steps α} {t : Trace}
  {final : Registering → α → Prop} {id : Identity}

theorem acceptances_append (id : Identity) (t u : Trace) :
    acceptances id (t ++ u) = acceptances id t + acceptances id u := by
  unfold acceptances
  rw [Trace.calls_append, List.countP_append]

theorem settlements_append (id : Identity) (t u : Trace) :
    settlements id (t ++ u) = settlements id t + settlements id u :=
  List.countP_append

theorem acceptances_step (id : Identity) {a : Action} (allowed : g.Allows target a)
    (reply : a.Reply) : acceptances id [⟨a, reply⟩] + g.due id =
      settlements id [⟨a, reply⟩] + (g.after a reply).due id := by
  rcases allowed.cases with ⟨entry, rfl⟩ | ⟨rfl, rfl | rfl | ⟨x, rfl⟩ | ⟨series, rfl⟩⟩ |
    ⟨d, rfl, rfl, -⟩ | ⟨x, succeeded, rfl, rfl⟩
  · cases g <;> rfl
  · rfl
  · rfl
  · cases reply <;> rfl
  · rfl
  · by_cases hd : d.identity = id <;> cases reply <;>
      simp [acceptances, settlements, Registering.due, Registering.after, Trace.calls,
        Exchange.call?, Call.declares, hd]
  · cases succeeded <;> simp [acceptances, settlements, Registering.due, Registering.after,
      Trace.calls, Exchange.call?, List.countP_cons]

/-- The cache is told once of every descriptor that was accepted. -/
theorem acceptances_of_leads (id : Identity) (h : Obeys (registering target) final g p)
    (hl : p.Leads t q) :
    acceptances id t + g.due id =
      settlements id t + ((registering target).afterAll g t).due id := by
  refine h.along (motive := fun g t => acceptances id t + g.due id =
    settlements id t + ((registering target).afterAll g t).due id) (fun _ => rfl) ?_ hl
  intro g r reply t allowed later
  have first := acceptances_step id allowed reply
  have accepted := acceptances_append id [⟨r, reply⟩] t
  have settled := settlements_append id [⟨r, reply⟩] t
  rw [List.singleton_append] at accepted settled
  change acceptances id t + (g.after r reply).due id =
    settlements id t + ((registering target).afterAll g (⟨r, reply⟩ :: t)).due id at later
  omega

/-- Whoever has the answer of a service that goes by types has the answer for its type. -/
def Registering.Fair (target : MetricTarget) (registers : String → Except Failure Unit)
    (g : Registering) : Prop :=
  ∀ id b, g = .answered id b → b = (registers (target.typeOf id)).isOk

variable {registers : String → Except Failure Unit}

theorem Registering.Fair.after {a : Action} {reply : a.Reply} (fair : g.Fair target registers)
    (allowed : g.Allows target a)
    (answers : ∀ d outcome, (Call.createDescriptor d, outcome) ∈ Trace.calls [⟨a, reply⟩] →
      outcome = registers d.type) : (g.after a reply).Fair target registers := by
  intro id b h
  rcases allowed.cases with ⟨entry, rfl⟩ | ⟨rfl, rfl | rfl | ⟨x, rfl⟩ | ⟨series, rfl⟩⟩ |
    ⟨d, rfl, rfl, type_eq⟩ | ⟨x, succeeded, rfl, rfl⟩
  · exact fair id b (by cases g <;> exact h)
  · cases h
  · cases h
  · cases reply <;> cases h
  · cases h
  · have outcome_eq := answers d reply (List.mem_singleton_self _)
    cases h
    rw [outcome_eq, type_eq]
  · cases h

theorem fair_of_leads (h : Obeys (registering target) final g p) (hl : p.Leads t q)
    (answers : ∀ d outcome, (Call.createDescriptor d, outcome) ∈ t.calls →
      outcome = registers d.type)
    (fair : g.Fair target registers) :
    ((registering target).afterAll g t).Fair target registers := by
  refine h.along (motive := fun g t => (∀ d outcome, (Call.createDescriptor d, outcome) ∈
    Trace.calls t → outcome = registers d.type) → g.Fair target registers →
    ((registering target).afterAll g t).Fair target registers) (fun _ _ fair => fair) ?_ hl
    answers fair
  intro g r reply t allowed ih answers fair
  rw [show ⟨r, reply⟩ :: t = [⟨r, reply⟩] ++ t from rfl, Trace.calls_append] at answers
  have later := fair.after allowed fun d outcome hd =>
    answers d outcome (List.mem_append_left _ hd)
  exact ih (fun d outcome hd => answers d outcome (List.mem_append_right _ hd)) later

end

end CloudTelemetry
