import CloudTelemetry.Proofs.Identifiers
import CloudTelemetry.Proofs.Metric.Exemplars
import CloudTelemetry.Proofs.Metric.Labels
import CloudTelemetry.Proofs.Span.Translation
import Mathlib.Data.Set.Function

/-!
# Links from metrics to spans

An exemplar refers to the span in which it was measured by the name under which the span itself is
sent (`NamedAlike.alike`). The name tells both identifiers, in lower-case hexadecimal digits of a
fixed width, and an exemplar that lacks one of them refers to no span.
-/

namespace CloudTelemetry

/-! ### Exemplars -/

def Attachment.span? : Attachment → Option String
  | .span name => some name
  | .labels _ => none

def SentExemplar.spans (s : SentExemplar) : List String := s.attachments.filterMap Attachment.span?

namespace Exemplar

variable {e : Exemplar} {project : String} {s : SentExemplar} {context : SpanContext}

/-- An identifier of the span is missing, or it is zero. -/
def Unlinked (e : Exemplar) : Prop :=
  e.traceId = none ∨ e.traceId = some 0 ∨ e.spanId = none ∨ e.spanId = some 0

structure IsOf (e : Exemplar) (context : SpanContext) : Prop where
  trace : e.traceId = some context.traceId
  span : e.spanId = some context.spanId

theorem span?_eq_none_iff : e.span? = none ↔ e.Unlinked := by
  have zero (id : Option Int) : id.getD 0 = 0 ↔ id = none ∨ id = some 0 := by
    cases id <;> simp
  unfold span? Unlinked
  simp only [ne_eq, ite_eq_right_iff, reduceCtorEq, imp_false, not_and_or, not_not, zero, or_assoc]

theorem IsOf.span?_eq (h : e.IsOf context) (valid : context.isValid = true) :
    e.span? = some context := by
  obtain ⟨⟨trace, -⟩, span, -⟩ := SpanContext.isValid_iff.1 valid
  unfold span?
  simp only [h.trace, h.span, Option.getD_some]
  exact if_pos ⟨by omega, by omega⟩

theorem exists_sent_iff : (∃ s, e.sent project = .ok s) ↔ (∃ x, e.value.toBinary64 = .ok x) ∧
    (∃ time, Timestamp.ofNanos? e.time = .ok time) ∧ e.Labelled := by
  have attached : Ends (fun _ => True) e.Labelled _ (e.attachments project) :=
    ends_attachments project (fun _ => trivial) fun _ => trivial
  rw [← attached.exists_ok_iff]
  constructor
  · rintro ⟨s, h⟩
    obtain ⟨hv, ht, ha⟩ := sent_eq_ok_iff.1 h
    exact ⟨⟨s.value, hv⟩, ⟨s.time, ht⟩, s.attachments, ha⟩
  · rintro ⟨⟨x, hx⟩, ⟨time, ht⟩, attachments, ha⟩
    exact ⟨⟨x, time, attachments⟩, sent_eq_ok_iff.2 ⟨hx, ht, ha⟩⟩

theorem spans_of_sent (h : e.sent project = .ok s) :
    s.spans = (e.span?.map (spanName project)).toList := by
  have attached : Ends (fun _ => True) e.Labelled _ (e.attachments project) :=
    ends_attachments project (fun _ => trivial) fun _ => trivial
  obtain ⟨labels, -, same⟩ := attached.kind_of_ok (sent_eq_ok_iff.1 h).2.2
  have none : (if labels = [] then [] else [Attachment.labels labels]).filterMap
      Attachment.span? = [] := by
    split <;> rfl
  unfold SentExemplar.spans
  rw [same, List.filterMap_append, none, List.append_nil]
  cases e.span? <;> rfl

end Exemplar

/-! ### Spans -/

theorem Span.name_of_sent {span : Span} {target : SpanTarget} {resource : Option Resource}
    {sent : SentSpan} {context : SpanContext} (h : span.sent target resource = .ok sent)
    (same : span.context = some context) : sent.name = spanName target.project context := by
  unfold Span.sent at h
  split at h
  · rename_i identity
    split at h
    · split at h
      · obtain ⟨_, -, h⟩ := bind_eq_ok h
        obtain ⟨_, -, h⟩ := bind_eq_ok h
        obtain ⟨_, -, h⟩ := bind_eq_ok h
        obtain ⟨_, -, h⟩ := bind_eq_ok h
        obtain ⟨_, -, h⟩ := bind_eq_ok h
        obtain ⟨_, -, h⟩ := bind_eq_ok h
        cases h
        obtain ⟨own, -⟩ := Span.validContext?_eq_some.1 identity
        rw [same] at own
        cases own
        rfl
      · cases h
    · cases h
  · cases h

/-- How the metrics and the spans of a project name a span, whatever the agent that sends it. -/
structure NamedAlike (project : String) : Prop where
  /-- An exemplar refers to its span, and to no other, by the name that the span has. -/
  alike : ∀ context e s agent span resource sent, context.isValid = true →
    Exemplar.IsOf e context → e.sent project = .ok s → span.context = some context →
    Span.sent ⟨project, agent⟩ resource span = .ok sent →
    s.spans = [sent.name] ∧ sent.name = spanName project context
  /-- Whether an exemplar is sent does not rest on its identifiers. -/
  sends : ∀ e, (∃ s, Exemplar.sent project e = .ok s) ↔ (∃ x, e.value.toBinary64 = .ok x) ∧
    (∃ time, Timestamp.ofNanos? e.time = .ok time) ∧ e.Labelled
  sendsSpan : ∀ agent span resource, Span.Complete span → Span.Ordinary span resource →
    ((∃ sent, Span.sent ⟨project, agent⟩ resource span = .ok sent) ↔
      Span.Whole span resource ∧ Span.Counted span resource)
  injective : Set.InjOn (spanName project) {context | context.isValid = true}
  spelled : ∀ context, context.isValid = true → ∃ trace span,
    spanName project context = "projects/" ++ project ++ "/traces/" ++ trace ++ "/spans/" ++ span ∧
      Spells 32 context.traceId trace ∧ Spells 16 context.spanId span
  unlinked : ∀ e s, Exemplar.sent project e = .ok s → (s.spans = [] ↔ e.Unlinked)

theorem named_alike (project : String) : NamedAlike project where
  alike context e s agent span resource sent valid own made same named := by
    have name := Span.name_of_sent named same
    dsimp only at name
    refine ⟨?_, name⟩
    rw [Exemplar.spans_of_sent made, own.span?_eq valid, name]
    rfl
  sends e := e.exists_sent_iff
  sendsSpan agent span resource complete ordinary := by
    have ends : Ends _ _ (SentSpan.Shows ⟨project, agent⟩ resource span) _ :=
      complete.ends_sent ordinary
    exact ends.exists_ok_iff
  injective context valid other valid' same := by
    have read := SpanContext.ofName?_spanName project valid
    rw [same, SpanContext.ofName?_spanName project valid'] at read
    exact (Prod.mk.inj (Option.some.inj read)).2.symm
  spelled context valid := by
    obtain ⟨⟨trace, traceFits⟩, span, spanFits⟩ := SpanContext.isValid_iff.1 valid
    exact ⟨hexTraceId context.traceId, hexSpanId context.spanId, rfl,
      spells_hexId (by decide) (Int.le_of_lt trace) traceFits,
      spells_hexId (by decide) (Int.le_of_lt span) spanFits⟩
  unlinked e s made := by
    rw [Exemplar.spans_of_sent made, ← Exemplar.span?_eq_none_iff]
    cases e.span? <;> simp

def Exemplar.Sample.paid : Exemplar := ⟨.float .zero, some 0, some 1, some 2, none⟩

theorem named_alike_checkout : ∃ s sent, Exemplar.Sample.paid.sent "shop" = .ok s ∧
    Span.Sample.checkout.sent Span.Sample.shop none = .ok sent ∧ s.spans = [sent.name] := by
  have alike := named_alike "shop"
  obtain ⟨s, made⟩ :=
    (alike.sends Exemplar.Sample.paid).2 ⟨⟨.zero, rfl⟩, ⟨⟨0, 0⟩, rfl⟩, nofun, nofun⟩
  obtain ⟨sent, named⟩ := (alike.sendsSpan AttributeMap.Sample.agent Span.Sample.checkout none
    Span.Sample.complete_checkout Span.Sample.ordinary_checkout).2
    ⟨Span.Sample.whole_checkout, Span.Sample.counted_checkout⟩
  refine ⟨s, sent, made, named, ?_⟩
  exact (alike.alike ⟨1, 2⟩ _ s _ _ none sent (by decide) ⟨rfl, rfl⟩ made rfl named).1

end CloudTelemetry
