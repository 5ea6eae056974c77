import CloudTelemetry.Proofs.Export.Accounts
import CloudTelemetry.Proofs.Span.Limits

/-!
# Exports of spans, resource by resource

The resources that an export of spans remembers are those of its batch, so that every span is sent
as if its own resource were described afresh (`SpanBatch.sent_eq_afresh`). What an export does at a
service is then told by the batch alone: the spans that have a form go out in one call, in their
order (`SpanExporter.exportBatch_writes_once`).
-/

namespace CloudTelemetry

namespace SpanBatch

def resourceOf (batch : SpanBatch) :
    Option (Fin batch.resources.length) → Except Failure (Option Resource)
  | none => .ok none
  | some index => (Resource.ofRecorded (batch.resources.get index)).map some

/-- What is sent of a span with its own resource, whatever comes before it. -/
def afresh (batch : SpanBatch) (target : SpanTarget)
    (s : Span × Option (Fin batch.resources.length)) : Except Failure SentSpan :=
  (batch.resourceOf s.2).bind fun resource => s.1.sent target resource

/-- The spans of a batch that have a form, in the order of the batch. -/
def translated (batch : SpanBatch) (target : SpanTarget) : List SentSpan :=
  batch.spans.filterMap fun s => (batch.afresh target s).toOption

variable {batch : SpanBatch} {known : Mapped batch.resources.length} {target : SpanTarget}

/-! ### What is remembered of the resources -/

/-- What is remembered of a resource is what the batch makes of it. -/
def Faithful (batch : SpanBatch) (known : Mapped batch.resources.length) : Prop :=
  ∀ index resource, known.lookup index = some resource →
    Resource.ofRecorded (batch.resources.get index) = .ok resource

theorem faithful_nil : batch.Faithful [] := nofun

theorem Faithful.cons {index : Fin batch.resources.length} {resource : Resource}
    (h : batch.Faithful known)
    (own : Resource.ofRecorded (batch.resources.get index) = .ok resource) :
    batch.Faithful ((index, resource) :: known) := by
  intro i r found
  rw [List.lookup_cons] at found
  by_cases same : i = index
  · subst same
    rw [beq_self_eq_true] at found
    cases found
    exact own
  · rw [beq_false_of_ne same] at found
    exact h i r found

theorem Faithful.mapped (h : batch.Faithful known) (index : Fin batch.resources.length) :
    (batch.mapped known index).1 = Resource.ofRecorded (batch.resources.get index) ∧
      batch.Faithful (batch.mapped known index).2 := by
  unfold SpanBatch.mapped
  cases found : known.lookup index with
  | some resource => exact ⟨(h index resource found).symm, h⟩
  | none =>
    cases own : Resource.ofRecorded (batch.resources.get index) with
    | ok resource => exact ⟨rfl, h.cons own⟩
    | error cause => exact ⟨rfl, h⟩

theorem Faithful.sentSpan (h : batch.Faithful known) (target : SpanTarget)
    (s : Span × Option (Fin batch.resources.length)) :
    (batch.sentSpan target known s.1 s.2).1 = batch.afresh target s ∧
      batch.Faithful (batch.sentSpan target known s.1 s.2).2 := by
  obtain ⟨span, index⟩ := s
  cases index with
  | none => exact ⟨rfl, h⟩
  | some index =>
    obtain ⟨same, later⟩ := h.mapped index
    refine ⟨?_, later⟩
    unfold SpanBatch.sentSpan afresh resourceOf
    dsimp only
    -- remembered or not, the resource is now that of the batch
    rw [same]
    cases Resource.ofRecorded (batch.resources.get index) <;> rfl

theorem Faithful.sentSpans (h : batch.Faithful known)
    (spans : List (Span × Option (Fin batch.resources.length))) :
    batch.sentSpans target known spans =
      spans.map fun s => (s.1.name, batch.afresh target s) := by
  induction spans generalizing known with
  | nil => rfl
  | cons s rest ih =>
    obtain ⟨same, later⟩ := h.sentSpan target s
    rw [List.map_cons, ← ih later, ← same]
    rfl

/-- Resources that are shared, equal or absent: every span is sent as with its own. -/
theorem sent_eq_afresh (batch : SpanBatch) (target : SpanTarget) :
    batch.sent target = batch.spans.map fun s => (s.1.name, batch.afresh target s) :=
  faithful_nil.sentSpans batch.spans

end SpanBatch

/-! ### Which spans are lost -/

namespace SpanBatch

/-- Whether a span is lost: it has no form, or the write that it goes out in fails. -/
def Loses (batch : SpanBatch) (target : SpanTarget) (outcome : Except Failure Unit)
    (s : Span × Option (Fin batch.resources.length)) : Prop :=
  ∀ sent, batch.afresh target s = .ok sent → outcome.isOk = false

variable {batch : SpanBatch} {target : SpanTarget} {outcome : Except Failure Unit} {dropped : Nat}

theorem mem_translated {sent : SentSpan} : sent ∈ batch.translated target ↔
    ∃ s ∈ batch.spans, batch.afresh target s = .ok sent := by
  unfold translated
  rw [List.mem_filterMap]
  refine exists_congr fun s => and_congr_right fun _ => ?_
  cases batch.afresh target s <;> simp [Except.toOption]

theorem loses_of_translated_nil (none : batch.translated target = [])
    (outcome : Except Failure Unit) : ∀ s ∈ batch.spans, batch.Loses target outcome s := by
  intro s hs sent form
  have found := mem_translated.2 ⟨s, hs, form⟩
  rw [none] at found
  cases found

theorem success_iff (count : (batch.translated target).length + dropped = batch.spans.length) :
    (if outcome.isOk then ExportResult.ofCounts (batch.translated target).length dropped
      else .ofCounts 0 (dropped + (batch.translated target).length)) = .success ↔
      batch.translated target ≠ [] ∧ outcome.isOk = true ∨
        ∀ s ∈ batch.spans, ¬ batch.Loses target outcome s := by
  by_cases none : batch.translated target = []
  · have lost := loses_of_translated_nil none outcome
    rw [none, List.length_nil, Nat.zero_add] at count
    have empty : dropped = 0 ↔ ∀ s ∈ batch.spans, ¬ batch.Loses target outcome s := by
      rw [count, List.length_eq_zero_iff, List.eq_nil_iff_forall_not_mem]
      exact forall_congr' fun s => ⟨fun h hs => absurd hs h, fun h hs => h hs (lost s hs)⟩
    rw [none, List.length_nil, Nat.add_zero, ite_self, ofCounts_eq_success, ← empty]
    simp
  · have pos := List.length_pos_iff.2 none
    cases accepted : outcome.isOk with
    | true =>
      rw [if_pos rfl, ofCounts_eq_success]
      exact ⟨fun _ => .inl ⟨none, rfl⟩, fun _ => .inl pos⟩
    | false =>
      rw [if_neg Bool.false_ne_true, ofCounts_eq_success]
      obtain ⟨sent, found⟩ := List.exists_mem_of_ne_nil _ none
      obtain ⟨s, hs, -⟩ := mem_translated.1 found
      constructor
      · rintro (h | h) <;> omega
      · rintro (⟨-, h⟩ | h)
        · cases h
        · exact absurd (fun _ _ => accepted) (h s hs)

end SpanBatch

/-! ### The run of an export -/

namespace SpanExporter
open Procedure Stage

variable {service : Service} {outcomes : List (String × Except Failure SentSpan)}

def forms (outcomes : List (String × Except Failure SentSpan)) : List SentSpan :=
  outcomes.filterMap fun o => o.2.toOption

def drops (outcomes : List (String × Except Failure SentSpan)) : List LogEntry :=
  outcomes.filterMap fun o =>
    match o.2 with
    | .ok _ => none
    | .error cause => some (.recordDropped .trace o.1 cause)

variable {name : String} {rest : List (String × Except Failure SentSpan)}

theorem forms_ok (span : SentSpan) : forms ((name, .ok span) :: rest) = span :: forms rest := rfl

theorem forms_error (cause : Failure) : forms ((name, .error cause) :: rest) = forms rest := rfl

theorem drops_ok (span : SentSpan) : drops ((name, .ok span) :: rest) = drops rest := rfl

theorem drops_error (cause : Failure) : drops ((name, .error cause) :: rest) =
    .recordDropped .trace name cause :: drops rest := rfl

theorem length_forms_add_drops (outcomes : List (String × Except Failure SentSpan)) :
    (forms outcomes).length + (drops outcomes).length = outcomes.length := by
  induction outcomes with
  | nil => rfl
  | cons o rest ih =>
    obtain ⟨name, span | cause⟩ := o
    · rw [forms_error, drops_error, List.length_cons, List.length_cons]
      omega
    · rw [forms_ok, drops_ok, List.length_cons, List.length_cons]
      omega

theorem run_log (entry : LogEntry) (stage : Stage SpanBatch) :
    (Steps.log entry).run (Stage.handle (served service)) stage =
      some ((), { stage with log := stage.log ++ [entry] }) := rfl

theorem run_call (c : Call) (stage : Stage SpanBatch) :
    (Steps.call c).run (Stage.handle (served service)) stage =
      some ((service stage.made c).mapError c.seen,
        { stage.counting c with calls := stage.calls ++ [⟨c, []⟩] }) := rfl

theorem run_gather (service : Service)
    (own : ∀ o ∈ outcomes, ∀ cause, o.2 = .error cause → losesSpan cause = true)
    (stage : Stage SpanBatch) :
    (gather outcomes).run (Stage.handle (served service)) stage =
      some (.ok ⟨forms outcomes, (drops outcomes).length⟩,
        { stage with log := stage.log ++ drops outcomes }) := by
  induction outcomes generalizing stage with
  | nil => simp [gather, pure, run_done, forms, drops]
  | cons o rest ih =>
    obtain ⟨name, outcome⟩ := o
    obtain ⟨first, later⟩ := List.forall_mem_cons.1 own
    cases outcome with
    | ok span =>
      rw [gather, bind_eq, run_bind, ih later]
      rfl
    | error cause =>
      rw [gather, if_pos (first cause rfl), bind_eq, run_bind, run_log, Option.bind_some, bind_eq,
        run_bind, ih later, forms_error, drops_error]
      simp [pure, run_done, Except.map]

/-- What was gathered is written in one call, unless it is nothing. If the call fails, what it
carries is lost with what was dropped. -/
theorem run_write (service : Service) (exporter : SpanExporter) (gathered : GatheredSpans)
    (stage : Stage SpanBatch) :
    ∃ final, (exporter.write gathered).run (Stage.handle (served service)) stage =
        some (if (service stage.made (.writeSpans gathered.spans)).isOk
          then .ofCounts gathered.spans.length gathered.dropped
          else .ofCounts 0 (gathered.dropped + gathered.spans.length), final) ∧
      final.made = stage.made ++
        (if gathered.spans = [] then [] else [.writeSpans gathered.spans]) := by
  obtain ⟨spans, dropped⟩ := gathered
  cases spans with
  | nil =>
    refine ⟨stage, ?_, (List.append_nil _).symm⟩
    rw [List.length_nil, Nat.add_zero, ite_self]
    rfl
  | cons span rest =>
    unfold SpanExporter.write
    dsimp only
    rw [if_neg (by simp), bind_eq, run_bind, run_call, Option.bind_some]
    cases service stage.made (.writeSpans (span :: rest)) with
    | ok _ => exact ⟨_, rfl, by simp [made]⟩
    | error cause => exact ⟨_, rfl, by simp [made]⟩

theorem run_exporting {batch : Steps (Except Failure ExportResult)} {stage final : Stage SpanBatch}
    {operation : String} {result : ExportResult} (available : stage.lifecycle.isShutdown = false)
    (run : batch.run (Stage.handle (served service)) { stage with
      lifecycle := stage.lifecycle.beginExport.2, writes := 0 } = some (.ok result, final)) :
    (Steps.exporting .trace operation batch).run (Stage.handle (served service)) stage =
      some (result, { final with lifecycle := final.lifecycle.endExport }) := by
  have begins : (Steps.act .beginExport).run (Stage.handle (served service)) stage =
      some (true, { stage with lifecycle := stage.lifecycle.beginExport.2, writes := 0 }) := by
    simp [Steps.act, request, Procedure.run, Stage.handle, Lifecycle.beginExport, available]
  unfold Steps.exporting
  rw [bind_eq, run_bind, begins, Option.bind_some]
  dsimp only
  rw [if_pos rfl, bind_eq, run_bind, run]
  rfl

variable {e : SpanExporter} {batch : SpanBatch}

theorem forms_sent : forms (batch.sent e.target) = batch.translated e.target := by
  rw [SpanBatch.sent_eq_afresh, forms, List.filterMap_map]
  rfl

theorem count_sent : (batch.translated e.target).length + (drops (batch.sent e.target)).length =
    batch.spans.length := by
  rw [← forms_sent, length_forms_add_drops, SpanBatch.sent_eq_afresh, List.length_map]

theorem run_send (service : Service)
    (alone : ∀ o ∈ batch.sent e.target, ∀ cause, o.2 = .error cause → losesSpan cause = true)
    (stage : Stage SpanBatch) :
    ∃ result final, (e.send batch).run (Stage.handle (served service)) stage =
        some (.ok result, final) ∧
      final.made = stage.made ++ (if batch.translated e.target = [] then []
        else [.writeSpans (batch.translated e.target)]) ∧
      (result = .success ↔ batch.translated e.target ≠ [] ∧
          (service stage.made (.writeSpans (batch.translated e.target))).isOk = true ∨
        ∀ s ∈ batch.spans, ¬ batch.Loses e.target
          (service stage.made (.writeSpans (batch.translated e.target))) s) := by
  have gathering := run_gather service alone stage
  obtain ⟨final, writing, made_eq⟩ := run_write service e
    ⟨forms (batch.sent e.target), (drops (batch.sent e.target)).length⟩
    { stage with log := stage.log ++ drops (batch.sent e.target) }
  rw [forms_sent] at gathering writing made_eq
  refine ⟨_, final, ?_, made_eq, SpanBatch.success_iff count_sent⟩
  unfold SpanExporter.send
  rw [bind_eq, run_bind, gathering, Option.bind_some]
  dsimp only
  rw [bind_eq, run_bind, writing]
  rfl

theorem losesSpan_of_mem_sent
    (mapped : ∀ s ∈ batch.spans, ∃ resource, batch.resourceOf s.2 = .ok resource)
    (own : ∀ s ∈ batch.spans, ∀ resource cause, batch.resourceOf s.2 = .ok resource →
      s.1.sent e.target resource = .error cause → ∃ reason, cause = .unsendable reason) :
    ∀ o ∈ batch.sent e.target, ∀ cause, o.2 = .error cause → losesSpan cause = true := by
  rw [SpanBatch.sent_eq_afresh]
  intro o ho cause failed
  obtain ⟨s, hs, rfl⟩ := List.mem_map.1 ho
  obtain ⟨resource, found⟩ := mapped s hs
  unfold SpanBatch.afresh at failed
  rw [found] at failed
  obtain ⟨reason, rfl⟩ := own s hs resource cause found failed
  rfl

/-- The spans of a batch whose resources can be described, where nothing fails but single spans: the
spans that have a form, each with its own resource, are written in one call and in their order, and
without any there is no call. The export succeeds if that call does, or if no span is lost. -/
theorem exportBatch_writes_once
    (mapped : ∀ s ∈ batch.spans, ∃ resource, batch.resourceOf s.2 = .ok resource)
    (own : ∀ s ∈ batch.spans, ∀ resource cause, batch.resourceOf s.2 = .ok resource →
      s.1.sent e.target resource = .error cause → ∃ reason, cause = .unsendable reason)
    (service : Service) {stage : Stage SpanBatch}
    (available : stage.lifecycle.isShutdown = false) :
    let spans := batch.translated e.target
    let outcome := service stage.made (.writeSpans spans)
    ∃ result final,
      (e.exportBatch (some batch)).run (Stage.handle (served service)) stage =
        some (result, final) ∧
      final.made = stage.made ++ (if spans = [] then [] else [.writeSpans spans]) ∧
      (result = .success ↔ spans ≠ [] ∧ outcome.isOk = true ∨
        ∀ s ∈ batch.spans, ¬ batch.Loses e.target outcome s) := by
  intro spans outcome
  obtain ⟨result, final, sending, made_eq, success⟩ := run_send service
    (losesSpan_of_mem_sent mapped own)
    { stage with lifecycle := stage.lifecycle.beginExport.2, writes := 0 }
  exact ⟨result, _, run_exporting available sending, made_eq, success⟩

namespace Sample

def shop : Fields Value := .ofList [("service.name", .text "shop")]

def span (name : String) (stop : Option Int) : Span where
  name := name
  context := some ⟨1, 2⟩
  parent := none
  attributes := ⟨none, 0⟩
  events := []
  links := []
  kind := some .server
  status := .unset
  start := some 0
  stop := stop

/-- Two spans share a resource, a third has an equal one of its own, and two have none. One of these
has not ended. -/
def spans : SpanBatch where
  resources := [some shop, some shop]
  spans := [(span "order" (some 1), some 0), (span "pending" none, none),
    (span "payment" (some 1), some 0), (span "refund" (some 1), some 1),
    (span "audit" (some 1), none)]

def exporter : SpanExporter := ⟨Span.Sample.shop, ⟨.int 10, true⟩⟩

theorem spans_mapped : ∀ s ∈ spans.spans, ∃ resource, spans.resourceOf s.2 = .ok resource := by
  intro s hs
  rcases hs with _ | ⟨_, _ | ⟨_, _ | ⟨_, _ | ⟨_, _ | ⟨_, ⟨⟩⟩⟩⟩⟩⟩ <;> exact ⟨_, rfl⟩

theorem spans_own : ∀ s ∈ spans.spans, ∀ resource cause, spans.resourceOf s.2 = .ok resource →
    s.1.sent exporter.target resource = .error cause → ∃ reason, cause = .unsendable reason := by
  intro s hs resource cause found failed
  rcases hs with _ | ⟨_, _ | ⟨_, _ | ⟨_, _ | ⟨_, _ | ⟨_, ⟨⟩⟩⟩⟩⟩⟩ <;> cases found <;> cases failed
  exact ⟨_, rfl⟩

end Sample

/-- Four spans are written together, two of them with a resource that they share. -/
theorem exportBatch_writes_once_sample :
    ∃ result final,
      (Sample.exporter.exportBatch (some Sample.spans)).run
        (Stage.handle (served fun _ _ => .ok ()))
        (Stage.new (.new .sendOnce []) : Stage SpanBatch) = some (result, final) ∧
      final.made = [.writeSpans (Sample.spans.translated Span.Sample.shop)] ∧
      (Sample.spans.translated Span.Sample.shop).map (fun sent => sent.displayName.value) =
        ["order", "payment", "refund", "audit"] ∧
      result = .success := by
  have available : (Stage.new (.new .sendOnce []) : Stage SpanBatch).lifecycle.isShutdown = false :=
    rfl
  obtain ⟨result, final, run, made_eq, success⟩ :=
    exportBatch_writes_once Sample.spans_mapped Sample.spans_own (fun _ _ => .ok ()) available
  have names : (Sample.spans.translated Span.Sample.shop).map (fun sent => sent.displayName.value) =
      ["order", "payment", "refund", "audit"] := by decide +kernel
  have nonempty : Sample.spans.translated Sample.exporter.target ≠ [] := by
    intro none
    have none : Sample.spans.translated Span.Sample.shop = [] := none
    rw [none] at names
    cases names
  rw [if_neg nonempty] at made_eq
  exact ⟨result, final, run, made_eq, names, success.2 (.inl ⟨nonempty, rfl⟩)⟩

end SpanExporter

end CloudTelemetry
