import CloudTelemetry.Proofs.Identifiers
import CloudTelemetry.Proofs.Metric.Points
import CloudTelemetry.Proofs.Span.Selection
import CloudTelemetry.Proofs.Text.Slices

/-!
# Spans that are sent

A span is refused as a failure of its record exactly if it has no valid identity or has not ended.
Every other one has a form, in which its first events and links stand in their order, the rest is
counted, and the identifiers can be read back (`SentSpan.Shows`), but for two things: an attribute
with half of a character, and a text from which more is cut than can be counted, end the translation
with a defect (`Span.translates`).
-/

namespace CloudTelemetry

theorem exists_ofNanos {time : Option Int} (h : HasTimestamp time) :
    ∃ timestamp : Timestamp, Timestamp.ofNanos? time = .ok timestamp ∧ timestamp.Tells time := by
  have sends := sends_ofNanos h
  obtain ⟨timestamp, sent⟩ := sends.exists_ok_iff.2 ⟨trivial, trivial⟩
  exact ⟨timestamp, sent, sends.kind_of_ok sent⟩

/-! ### Attributes -/

namespace AttributeMap

variable {limit : Nat} {recorded : RecordedAttributes} {extra : Fields Value}
  {agent : Option Agent} {failure : Failure → Prop}

/-- No integer is too long to be written, and not too much is dropped. -/
structure Ordinary (limit : Nat) (recorded : RecordedAttributes) (extra : Fields Value) :
    Prop where
  writable : ∀ e ∈ inputs recorded extra, e.2.isWritable = true
  count : fitsInt32 (droppedOf limit recorded extra) = true

/-- No text holds half of a character, whether there is room for it or not. -/
def Whole (recorded : RecordedAttributes) (extra : Fields Value) : Prop :=
  ∀ e ∈ inputs recorded extra, AttributeValue.hasHalves e.2 = false

instance : Decidable (Whole recorded extra) :=
  inferInstanceAs (Decidable (∀ e ∈ inputs recorded extra, AttributeValue.hasHalves e.2 = false))

/-- From no text more is cut than can be counted. -/
def Counted (recorded : RecordedAttributes) (extra : Fields Value) : Prop :=
  ∀ e ∈ inputs recorded extra, AttributeValue.isCountable e.2 = true

instance : Decidable (Counted recorded extra) :=
  inferInstanceAs (Decidable (∀ e ∈ inputs recorded extra, AttributeValue.isCountable e.2 = true))

theorem Ordinary.ends_build (h : Ordinary limit recorded extra)
    (halves : ¬ Whole recorded extra → failure (.defect .halfCharacter))
    (long : ¬ Counted recorded extra → failure (.defect .badValue)) :
    Ends failure (Whole recorded extra ∧ Counted recorded extra)
      (· = made limit recorded extra agent) (build limit recorded extra agent) := by
  have built : Ends failure (Sendable limit recorded extra) (· = made limit recorded extra agent)
      (build limit recorded extra agent) := by
    refine AttributeMap.ends_build ?_ ?_ ?_ ?_
    · exact fun e he unwritten => by cases unwritten.symm.trans (h.writable e he)
    · exact fun e he half => halves fun whole => by cases half.symm.trans (whole e he)
    · exact fun e he cut => long fun counted => by cases cut.symm.trans (counted e he)
    · exact fun many => by cases many.symm.trans h.count
  refine built.imp ⟨fun sendable => ?_, fun ⟨whole, counted⟩ => ?_⟩ fun _ same => same
  · exact ⟨fun e he => (sendable.forms e he).whole, fun e he => (sendable.forms e he).countable⟩
  · exact ⟨fun e he => ⟨h.writable e he, whole e he, counted e he⟩, h.count⟩

end AttributeMap

/-! ### Events and links -/

section

variable {failure : Failure → Prop}

structure Event.Ordinary (event : Event) : Prop where
  time : HasTimestamp event.time
  attributes : AttributeMap.Ordinary eventAttributeLimit event.attributes .empty

/-- From the texts of an event no more is cut than can be counted. -/
structure Event.Counted (event : Event) : Prop where
  name : (Truncated.cut event.name attributeTextLimit).isCountable = true
  attributes : AttributeMap.Counted event.attributes .empty

structure SentEvent.Shows (event : Event) (sent : SentEvent) : Prop where
  time : sent.time.Tells event.time
  description : sent.description = Truncated.cut event.name 256
  attributes : sent.attributes = AttributeMap.made 4 event.attributes .empty none

theorem Event.Ordinary.ends_sent {event : Event} (h : event.Ordinary)
    (halves : ¬ AttributeMap.Whole event.attributes .empty → failure (.defect .halfCharacter))
    (long : ¬ event.Counted → failure (.defect .badValue)) :
    Ends failure (AttributeMap.Whole event.attributes .empty ∧ event.Counted)
      (SentEvent.Shows event) event.sent := by
  obtain ⟨time, sent, tells⟩ := exists_ofNanos h.time
  have description : Ends failure _ (· = Truncated.cut event.name 256)
      (Truncated.ofText event.name attributeTextLimit) :=
    Truncated.ends_ofText fun cut => long fun counted => by cases cut.symm.trans counted.name
  have attributes : Ends failure _ (· = AttributeMap.made 4 event.attributes .empty none) _ :=
    h.attributes.ends_build halves fun no => long fun counted => no counted.attributes
  unfold Event.sent
  rw [sent]
  refine (description.bind fun text cut => attributes.bind_pure fun attributes made =>
    ⟨tells, cut, made⟩).imp ?_ fun _ => id
  constructor
  · rintro ⟨name, whole, counted⟩
    exact ⟨whole, name, counted⟩
  · rintro ⟨whole, name, counted⟩
    exact ⟨name, whole, counted⟩

structure Link.Ordinary (link : Link) : Prop where
  context : link.context ≠ none
  attributes : AttributeMap.Ordinary linkAttributeLimit link.attributes .empty

structure SentLink.Shows (link : Link) (sent : SentLink) : Prop where
  context : ∃ context, link.context = some context ∧ sent.traceId = hexTraceId context.traceId ∧
    sent.spanId = hexSpanId context.spanId
  attributes : sent.attributes = AttributeMap.made 32 link.attributes .empty none

theorem Link.Ordinary.ends_sent {link : Link} (h : link.Ordinary)
    (halves : ¬ AttributeMap.Whole link.attributes .empty → failure (.defect .halfCharacter))
    (long : ¬ AttributeMap.Counted link.attributes .empty → failure (.defect .badValue)) :
    Ends failure
      (AttributeMap.Whole link.attributes .empty ∧ AttributeMap.Counted link.attributes .empty)
      (SentLink.Shows link) link.sent := by
  obtain ⟨context, some⟩ := Option.ne_none_iff_exists'.1 h.context
  unfold Link.sent
  rw [some]
  exact (h.attributes.ends_build halves long).bind_pure fun attributes made =>
    ⟨⟨context, some, rfl, rfl⟩, made⟩

end

/-! ### Spans -/

namespace Span

/-- The span has a valid identity and has ended. -/
structure Complete (span : Span) : Prop where
  context : ∃ context, span.context = some context ∧ context.isValid = true
  start : span.start ≠ none
  stop : span.stop ≠ none

/-- The times of a span, where they are set, its counts and its integers can be sent, and so can
those of its events and links. -/
structure Ordinary (span : Span) (resource : Option Resource) : Prop where
  start : span.start ≠ none → HasTimestamp span.start
  stop : span.stop ≠ none → HasTimestamp span.stop
  attributes : AttributeMap.Ordinary spanAttributeLimit span.attributes
    (resourceAttributes resource)
  events : ∀ event ∈ span.events.take eventLimit, event.Ordinary
  links : ∀ link ∈ span.links.take linkLimit, link.Ordinary

structure Whole (span : Span) (resource : Option Resource) : Prop where
  attributes : AttributeMap.Whole span.attributes (resourceAttributes resource)
  events : ∀ event ∈ span.events.take eventLimit, AttributeMap.Whole event.attributes .empty
  links : ∀ link ∈ span.links.take linkLimit, AttributeMap.Whole link.attributes .empty

/-- From the texts that are sent of a span no more is cut than can be counted. -/
structure Counted (span : Span) (resource : Option Resource) : Prop where
  name : (Truncated.cut span.name displayNameLimit).isCountable = true
  attributes : AttributeMap.Counted span.attributes (resourceAttributes resource)
  events : ∀ event ∈ span.events.take eventLimit, event.Counted
  links : ∀ link ∈ span.links.take linkLimit, AttributeMap.Counted link.attributes .empty

/-- What keeps a complete span from being sent: a text of it is not whole, or too much is cut. -/
def Hinders (span : Span) (resource : Option Resource) (cause : Failure) : Prop :=
  cause = .defect .halfCharacter ∧ ¬ span.Whole resource ∨
    cause = .defect .badValue ∧ ¬ span.Counted resource

end Span

/-- What is sent of a span: its first events and links, each in its form, and how many there are
beside them. -/
structure SentSpan.Shows (target : SpanTarget) (resource : Option Resource) (span : Span)
    (sent : SentSpan) : Prop where
  identity : ∃ context, span.context = some context ∧
    SpanContext.ofName? sent.name = some (target.project, context) ∧
    readId? 16 sent.spanId.toList = some context.spanId
  parent : sent.parentSpanId ≠ none ↔
    ∃ parent, span.parent = some parent ∧ parent.isValid = true
  parentId : ∀ id parent, sent.parentSpanId = some id → span.parent = some parent →
    readId? 16 id.toList = some parent.spanId
  status : sent.status = none ↔ span.status = .unset
  displayName : sent.displayName = Truncated.cut span.name 128
  attributes : sent.attributes =
    AttributeMap.made 32 span.attributes (Span.resourceAttributes resource) (some target.agent)
  events : List.Forall₂ SentEvent.Shows (span.events.take 32) sent.events
  eventCount : sent.events.length = min 32 span.events.length
  droppedEvents : sent.droppedEvents + sent.events.length = span.events.length
  links : List.Forall₂ SentLink.Shows (span.links.take 128) sent.links
  linkCount : sent.links.length = min 128 span.links.length
  droppedLinks : sent.droppedLinks + sent.links.length = span.links.length

namespace Span

variable {target : SpanTarget} {resource : Option Resource} {span : Span} {sent : SentSpan}

theorem validContext?_eq_some {context : SpanContext} : span.validContext? = some context ↔
    span.context = some context ∧ context.isValid = true := by
  unfold validContext?
  rw [Option.filter_eq_some_iff]

theorem readId?_hexSpanId {context : SpanContext} (valid : context.isValid = true) :
    readId? 16 (hexSpanId context.spanId).toList = some context.spanId := by
  obtain ⟨-, pos, fits⟩ := SpanContext.isValid_iff.1 valid
  exact readId?_hexId (by decide) (Int.le_of_lt pos) fits

theorem parentId?_eq_some {id : String} : span.parentId? = some id ↔
    ∃ parent, (span.parent = some parent ∧ parent.isValid = true) ∧
      hexSpanId parent.spanId = id := by
  unfold parentId?
  simp only [Option.map_eq_some_iff, Option.filter_eq_some_iff]

theorem parentId?_ne_none_iff : span.parentId? ≠ none ↔
    ∃ parent, span.parent = some parent ∧ parent.isValid = true := by
  simp only [Option.ne_none_iff_exists', parentId?_eq_some]
  constructor
  · rintro ⟨_, parent, valid, -⟩
    exact ⟨parent, valid⟩
  · rintro ⟨parent, valid⟩
    exact ⟨_, parent, valid, rfl⟩

theorem readId?_of_parentId? {id : String} {parent : SpanContext} (h : span.parentId? = some id)
    (hp : span.parent = some parent) : readId? 16 id.toList = some parent.spanId := by
  obtain ⟨_, ⟨has, valid⟩, rfl⟩ := parentId?_eq_some.1 h
  rw [hp] at has
  cases has
  exact readId?_hexSpanId valid

theorem status_sent_eq_none_iff {status : SpanStatus} : status.sent = none ↔ status = .unset := by
  cases status <;> simp [SpanStatus.sent]

theorem length_of_forall₂_take {α β : Type} {shows : α → β → Prop} {parts : List α} {sent : List β}
    {limit : Nat} (h : List.Forall₂ shows (parts.take limit) sent) :
    sent.length = min limit parts.length ∧ parts.length - limit + sent.length = parts.length := by
  have := h.length_eq
  rw [List.length_take] at this
  omega

theorem refused_of_not_complete (h : ¬ span.Complete) :
    ∃ reason, span.sent target resource = .error (.unsendable reason) := by
  unfold Span.sent
  cases identity : span.validContext? with
  | none => exact ⟨_, rfl⟩
  | some context =>
    cases start : span.start with
    | none => exact ⟨_, rfl⟩
    | some start' =>
      cases stop : span.stop with
      | none => exact ⟨_, rfl⟩
      | some stop' =>
        exact absurd ⟨⟨context, validContext?_eq_some.1 identity⟩, by simp [start],
          by simp [stop]⟩ h

theorem Complete.ends_sent (complete : span.Complete) (h : span.Ordinary resource) :
    Ends (span.Hinders resource) (span.Whole resource ∧ span.Counted resource)
      (SentSpan.Shows target resource span) (span.sent target resource) := by
  obtain ⟨context, has, valid⟩ := complete.context
  obtain ⟨start, hstart⟩ := Option.ne_none_iff_exists'.1 complete.start
  obtain ⟨stop, hstop⟩ := Option.ne_none_iff_exists'.1 complete.stop
  obtain ⟨startTime, startSent, -⟩ := exists_ofNanos (h.start complete.start)
  obtain ⟨stopTime, stopSent, -⟩ := exists_ofNanos (h.stop complete.stop)
  have half (no : ¬ span.Whole resource) : span.Hinders resource (.defect .halfCharacter) :=
    .inl ⟨rfl, no⟩
  have long (no : ¬ span.Counted resource) : span.Hinders resource (.defect .badValue) :=
    .inr ⟨rfl, no⟩
  have displayName : Ends (span.Hinders resource) _ (· = Truncated.cut span.name 128)
      (Truncated.ofText span.name displayNameLimit) :=
    Truncated.ends_ofText fun cut => long fun counted => by cases cut.symm.trans counted.name
  have attributes : Ends (span.Hinders resource) _
      (· = AttributeMap.made 32 span.attributes _ (some target.agent)) _ :=
    h.attributes.ends_build (fun no => half fun whole => no whole.attributes)
      fun no => long fun counted => no counted.attributes
  have events := Ends.mapM fun event he => (h.events event he).ends_sent
    (fun no => half fun whole => no (whole.events event he))
    fun no => long fun counted => no (counted.events event he)
  have links := Ends.mapM fun link hl => (h.links link hl).ends_sent
    (fun no => half fun whole => no (whole.links link hl))
    fun no => long fun counted => no (counted.links link hl)
  rw [hstart] at startSent
  rw [hstop] at stopSent
  change Timestamp.ofNanos start = _ at startSent
  change Timestamp.ofNanos stop = _ at stopSent
  unfold Span.sent
  rw [validContext?_eq_some.2 ⟨has, valid⟩, hstart, hstop]
  dsimp only
  rw [startSent, stopSent]
  -- only texts are left to end it: the name, the attributes, the events, then the links
  refine Ends.imp (displayName.bind fun displayName named => attributes.bind fun attributes made =>
    events.bind fun events shown => links.bind_pure fun links linked => ?_) ?_ fun _ h => h
  · obtain ⟨eventCount, droppedEvents⟩ := length_of_forall₂_take shown
    obtain ⟨linkCount, droppedLinks⟩ := length_of_forall₂_take linked
    exact {
      identity := ⟨context, has, SpanContext.ofName?_spanName target.project valid,
        readId?_hexSpanId valid⟩
      parent := parentId?_ne_none_iff
      parentId := fun id parent => readId?_of_parentId?
      status := status_sent_eq_none_iff
      displayName := named
      attributes := made
      events := shown
      eventCount := eventCount
      droppedEvents := droppedEvents
      links := linked
      linkCount := linkCount
      droppedLinks := droppedLinks }
  · constructor
    · rintro ⟨name, ⟨whole, counted⟩, events, links⟩
      exact ⟨⟨whole, fun e he => (events e he).1, fun l hl => (links l hl).1⟩,
        name, counted, fun e he => (events e he).2, fun l hl => (links l hl).2⟩
    · rintro ⟨whole, counted⟩
      exact ⟨counted.name, ⟨whole.attributes, counted.attributes⟩,
        fun e he => ⟨whole.events e he, counted.events e he⟩,
        fun l hl => ⟨whole.links l hl, counted.links l hl⟩⟩

/-- What becomes of a span: whether it is refused, and whether it has a form otherwise. -/
structure Translates (target : SpanTarget) (resource : Option Resource) (span : Span) : Prop where
  refused : (∃ reason, span.sent target resource = .error (.unsendable reason)) ↔ ¬ span.Complete
  otherwise : span.Complete → Ends (span.Hinders resource)
    (span.Whole resource ∧ span.Counted resource)
    (SentSpan.Shows target resource span) (span.sent target resource)

theorem translates (h : span.Ordinary resource) : Translates target resource span := by
  refine ⟨⟨?_, refused_of_not_complete⟩, fun complete => complete.ends_sent h⟩
  rintro ⟨reason, failed⟩ complete
  have ends : Ends _ _ (SentSpan.Shows target resource span) _ := complete.ends_sent h
  rw [failed] at ends
  cases ends with
  | fails _ cause => obtain ⟨half, -⟩ | ⟨long, -⟩ := cause <;> contradiction

namespace Sample

theorem complete_checkout : checkout.Complete := ⟨⟨⟨1, 2⟩, rfl, by decide⟩, nofun, nofun⟩

theorem ordinary_checkout : checkout.Ordinary none where
  start _ := ⟨0, rfl, by decide⟩
  stop _ := ⟨1, rfl, by decide⟩
  attributes := ⟨by decide +kernel, by decide +kernel⟩
  events := List.forall_mem_singleton.2 ⟨⟨0, rfl, by decide⟩, by decide +kernel, by decide +kernel⟩
  links := List.forall_mem_singleton.2 ⟨nofun, by decide +kernel, by decide +kernel⟩

theorem whole_checkout : checkout.Whole none where
  attributes := by decide +kernel
  events := List.forall_mem_singleton.2 (by decide +kernel)
  links := List.forall_mem_singleton.2 (by decide +kernel)

theorem counted_checkout : checkout.Counted none where
  name := by decide +kernel
  attributes := by decide +kernel
  events := List.forall_mem_singleton.2 ⟨by decide +kernel, by decide +kernel⟩
  links := List.forall_mem_singleton.2 (by decide +kernel)

end Sample

theorem translates_checkout : ∃ sent, Sample.checkout.sent Sample.shop none = .ok sent ∧
    SentSpan.Shows Sample.shop none Sample.checkout sent := by
  have outcome : Translates Sample.shop none Sample.checkout := translates Sample.ordinary_checkout
  have ends := outcome.otherwise Sample.complete_checkout
  obtain ⟨sent, ok⟩ := ends.exists_ok_iff.2 ⟨Sample.whole_checkout, Sample.counted_checkout⟩
  exact ⟨sent, ok, ends.kind_of_ok ok⟩

namespace Sample

def upload : Span := { checkout with attributes := AttributeMap.Sample.path }

theorem ordinary_upload : upload.Ordinary none :=
  { ordinary_checkout with attributes := ⟨by decide +kernel, by decide +kernel⟩ }

end Sample

/-- There is nothing amiss with the span itself, and yet it is not one failure of a record. -/
theorem not_translated_upload : Sample.upload.Ordinary none ∧ Sample.upload.Complete ∧
    Sample.upload.sent Sample.shop none = .error (.defect .halfCharacter) :=
  ⟨Sample.ordinary_upload, ⟨⟨⟨1, 2⟩, rfl, by decide⟩, nofun, nofun⟩, rfl⟩

end Span

end CloudTelemetry
