import CloudTelemetry.Proofs.Outcomes
import CloudTelemetry.Span.Sent

/-!
# Spans within the limits of the service

Everything in a span that is sent is within the limits of the service, whatever was recorded
(`fits_of_sent`). An attribute map is looked at through its sources: what was recorded, the extra
attributes, and the agent's. Each of its entries is the form of one of them, under the name that it
takes, so that the limits of keys, texts and integers are those of a single form
(`limits_of_admissible`).
-/

namespace CloudTelemetry

theorem Glyphs.shown_ofString (s : String) : (ofString s).shown = s := by
  unfold shown ofString ofChars
  rw [List.map_map]
  have whole : Glyph.shown ∘ Glyph.whole = id := rfl
  rw [whole, List.map_id, String.ofList_toList]

theorem Value.shown_text (s : String) : (Value.text s).shown = s := Glyphs.shown_ofString s

theorem Value.shown_int (n : Int) : (Value.int n).shown = toString n :=
  Glyphs.shown_ofString (toString n)

/-! ### Single attributes -/

/-- The form of an attribute that was recorded as `source`. An integer beyond 64 bits is text. -/
structure Carries (source : String × Value) (a : String × AttributeValue) : Prop where
  key : a.1 = sentKey source.1
  integer : ∀ n, source.2 = .int n →
    (IsInt64 n → a.2 = .int n) ∧ (¬ IsInt64 n → a.2 = .ofText (toString n))

/-- What the service takes of an attribute. -/
structure AttributeFits (a : String × AttributeValue) : Prop where
  key : a.1.utf8ByteSize ≤ 128
  text : ∀ t, a.2 = .text t → t.value.utf8ByteSize ≤ 256
  integer : ∀ n, a.2 = .int n → IsInt64 n

namespace AttributeValue

theorem ofValue?_int (n : Int) :
    ofValue? (.int n) = some (if fitsInt64 n then .int n else .ofText (toString n)) := by
  rw [ofValue?, Value.shown_int]

theorem eq_cut_of_text {v : Value} {t : Truncated} (h : ofValue? v = some (.text t)) :
    ∃ s, t = Truncated.cut s attributeTextLimit := by
  cases v with
  | null | bool => cases h
  | int n =>
    rw [ofValue?_int] at h
    split at h
    · cases h
    · exact ⟨_, (text.inj (Option.some.inj h)).symm⟩
  | float | text | broken | bytes | moment | list | tuple | set | map | enclosing =>
    exact ⟨_, (AttributeValue.text.inj (Option.some.inj h)).symm⟩

theorem fits_of_int {v : Value} {n : Int} (h : ofValue? v = some (.int n)) : IsInt64 n := by
  cases v with
  | int m =>
    rw [ofValue?_int] at h
    split at h
    · rename_i fits
      cases h
      exact fitsInt64_iff.1 fits
    · cases h
  | null | bool | float | text | broken | bytes | moment | list | tuple | set | map | enclosing =>
    cases h

end AttributeValue

namespace AttributeMap

variable {limit : Nat} {sources : List (String × Value)} {m : AttributeMap}

theorem admissible?_eq_some {source : String × Value} {a : String × AttributeValue} :
    admissible? source = some a ↔ a.1 = sentKey source.1 ∧
      AttributeValue.ofValue? source.2 = some a.2 ∧ a.1.utf8ByteSize ≤ 128 := by
  unfold admissible?
  cases form : AttributeValue.ofValue? source.2 with
  | none => simp
  | some value =>
    obtain ⟨key, v⟩ := a
    dsimp only
    rw [Text.size_toList]
    by_cases short : (sentKey source.1).utf8ByteSize ≤ attributeKeyLimit
    · rw [if_pos short]
      constructor
      · rintro ⟨⟩
        exact ⟨rfl, rfl, short⟩
      · rintro ⟨rfl, h, -⟩
        rw [Option.some.inj h]
    · rw [if_neg short]
      constructor
      · nofun
      · rintro ⟨rfl, -, h⟩
        exact absurd h short

theorem limits_of_admissible {source : String × Value} {a : String × AttributeValue}
    (h : admissible? source = some a) : AttributeFits a ∧ Carries source a := by
  obtain ⟨key, form, short⟩ := admissible?_eq_some.1 h
  refine ⟨⟨short, fun t ht => ?_, fun n hn => ?_⟩, key, fun n hn => ?_⟩
  · rw [ht] at form
    obtain ⟨s, rfl⟩ := AttributeValue.eq_cut_of_text form
    exact Truncated.utf8ByteSize_cut_le s attributeTextLimit
  · rw [hn] at form
    exact AttributeValue.fits_of_int form
  · rw [hn, AttributeValue.ofValue?_int, Option.some.injEq] at form
    rw [← form, ← fitsInt64_iff]
    exact ⟨fun fits => if_pos fits, fun wide => if_neg wide⟩

/-! ### Maps -/

/-- A map of at most `limit` attributes, each of which is the form of a source. -/
structure FormsOf (limit : Nat) (sources : List (String × Value)) (m : AttributeMap) : Prop where
  size : m.attributes.size ≤ limit
  forms : ∀ a ∈ m.attributes.entries, ∃ source ∈ sources, admissible? source = some a

theorem FormsOf.mono {later : List (String × Value)} (h : FormsOf limit sources m)
    (sub : sources ⊆ later) : FormsOf limit later m where
  size := h.size
  forms a ha := by
    obtain ⟨source, hs, form⟩ := h.forms a ha
    exact ⟨source, sub hs, form⟩

theorem FormsOf.of_eq {later : AttributeMap} (h : FormsOf limit sources m)
    (same : later.attributes = m.attributes) : FormsOf limit sources later where
  size := by rw [same]; exact h.size
  forms := by rw [same]; exact h.forms

theorem FormsOf.insert {source : String × Value} {a : String × AttributeValue}
    (h : FormsOf limit sources m) (hs : source ∈ sources) (form : admissible? source = some a)
    (dropped : Int) :
    FormsOf (m.attributes.size + 1) sources ⟨m.attributes.insert a.1 a.2, dropped⟩ where
  size := Fields.size_insert_le ..
  forms b hb := by
    rcases Fields.eq_or_mem_of_mem_insert hb with rfl | hb
    · exact ⟨source, hs, form⟩
    · exact h.forms b hb

theorem FormsOf.add {source : String × Value} (h : FormsOf limit sources m)
    (hs : source ∈ sources) : FormsOf limit sources (add limit m source) := by
  unfold AttributeMap.add
  cases form : admissible? source with
  | none => exact ⟨h.size, h.forms⟩
  | some a =>
    dsimp only
    split
    · rename_i room
      have inserted := h.insert hs form m.dropped
      have := inserted.size
      exact ⟨by omega, inserted.forms⟩
    · exact ⟨h.size, h.forms⟩

theorem formsOf_collect (limit : Nat) (sources : List (String × Value)) :
    FormsOf limit sources (collect limit sources) := by
  have start : FormsOf limit sources ⟨.empty, 0⟩ := ⟨Nat.zero_le _, nofun⟩
  -- the map is carried along while the sources run out, so that it is general in the induction
  have all : ∀ (part : List (String × Value)) (m : AttributeMap), part ⊆ sources →
      FormsOf limit sources m → FormsOf limit sources (part.foldl (AttributeMap.add limit) m) := by
    intro part
    induction part with
    | nil => exact fun m _ h => h
    | cons source part ih =>
      intro m sub h
      obtain ⟨hs, sub⟩ := List.cons_subset.1 sub
      exact ih _ sub (h.add hs)
  exact all sources _ (List.Subset.refl _) start

def agentSource (agent : Agent) : String × Value := (agentKey, .text agent.text)

theorem ofText_text (agent : Agent) : AttributeValue.ofText agent.text = .text ⟨agent.text, 0⟩ :=
  congrArg AttributeValue.text (Truncated.cut_of_fits agent.fits)

theorem admissible?_agentSource (agent : Agent) :
    admissible? (agentSource agent) = some (agentKey, .text ⟨agent.text, 0⟩) := by
  have form : AttributeValue.ofValue? (.text agent.text) = some (.text ⟨agent.text, 0⟩) := by
    show some (AttributeValue.ofText (Value.text agent.text).shown) = _
    rw [Value.shown_text, ofText_text]
  have short : agentKey.utf8ByteSize ≤ 128 := by decide
  exact admissible?_eq_some.2 ⟨rfl, form, short⟩

theorem FormsOf.withAgent (h : FormsOf limit sources m) (agent : Agent) :
    FormsOf (limit + 1) (sources ++ [agentSource agent]) (m.withAgent (some agent)) := by
  have all := h.mono (List.subset_append_left sources [agentSource agent])
  have inserted := all.insert (List.mem_append_right _ List.mem_cons_self)
    (admissible?_agentSource agent) m.dropped
  rw [← ofText_text] at inserted
  exact ⟨Nat.le_trans inserted.size (Nat.succ_le_succ h.size), inserted.forms⟩

end AttributeMap

def AttributeMap.Sample.agent : Agent := ⟨"1.45.2", by decide⟩

def RecordedAttributes.sources (recorded : RecordedAttributes) : List (String × Value) :=
  match recorded.kept with
  | some kept => kept.entries
  | none => []

namespace AttributeMap

variable {limit : Nat} {sources : List (String × Value)} {recorded : RecordedAttributes}
  {extra : Fields Value} {m : AttributeMap}

theorem attributes_of_counted {done : AttributeMap} {dropped : Int}
    (h : (if fitsInt32 dropped then .ok { done with dropped := dropped } else fails .badValue) =
      Except.ok m) : m.attributes = done.attributes := by
  split at h
  · cases h
    rfl
  · cases h

theorem attributes_of_build {agent : Option Agent} (h : build limit recorded extra agent = .ok m) :
    m.attributes =
      ((collect limit (recorded.sources ++ extra.entries)).withAgent agent).attributes := by
  obtain ⟨_, -, h⟩ := bind_eq_ok h
  exact attributes_of_counted h

theorem formsOf_build (h : build limit recorded .empty none = .ok m) :
    FormsOf limit recorded.sources m := by
  have forms := (formsOf_collect limit (recorded.sources ++ [])).of_eq (attributes_of_build h)
  rwa [List.append_nil] at forms

theorem formsOf_build_agent {agent : Agent} (h : build limit recorded extra (some agent) = .ok m) :
    FormsOf (limit + 1) (recorded.sources ++ extra.entries ++ [agentSource agent]) m ∧
      m.attributes.get? agentKey = some (.text ⟨agent.text, 0⟩) := by
  have same := attributes_of_build h
  refine ⟨((formsOf_collect limit _).withAgent agent).of_eq same, ?_⟩
  rw [same, ← ofText_text]
  exact Fields.get?_insert_self ..

/-- What the service takes of a map, each of whose attributes is that of a source. -/
structure Fits (limit : Nat) (sources : List (String × Value)) (m : AttributeMap) : Prop where
  size : m.attributes.size ≤ limit
  attributes : ∀ a ∈ m.attributes.entries,
    AttributeFits a ∧ ∃ source ∈ sources, Carries source a

theorem FormsOf.fits (h : FormsOf limit sources m) : Fits limit sources m where
  size := h.size
  attributes a ha := by
    obtain ⟨source, hs, form⟩ := h.forms a ha
    obtain ⟨fits, carries⟩ := limits_of_admissible form
    exact ⟨fits, source, hs, carries⟩

end AttributeMap

/-! ### Spans -/

structure EventFits (event : Event) (sent : SentEvent) : Prop where
  description : sent.description.value.utf8ByteSize ≤ 256
  attributes : AttributeMap.Fits 4 event.attributes.sources sent.attributes

theorem fits_of_event {event : Event} {sent : SentEvent} (h : event.sent = .ok sent) :
    EventFits event sent := by
  obtain ⟨time, -, h⟩ := bind_eq_ok h
  obtain ⟨description, cut, h⟩ := bind_eq_ok h
  obtain ⟨attributes, built, h⟩ := bind_eq_ok h
  cases h
  obtain rfl := Truncated.eq_cut_of_ofText cut
  exact ⟨Truncated.utf8ByteSize_cut_le event.name attributeTextLimit,
    (AttributeMap.formsOf_build built).fits⟩

theorem fits_of_link {link : Link} {sent : SentLink} (h : link.sent = .ok sent) :
    AttributeMap.Fits 32 link.attributes.sources sent.attributes := by
  unfold Link.sent at h
  split at h
  · cases h
  · obtain ⟨attributes, built, h⟩ := bind_eq_ok h
    cases h
    exact (AttributeMap.formsOf_build built).fits

/-- What the service takes of a span. The agent's attribute comes on top of 32 others; the first
events and links are sent, in their order. -/
structure SpanFits (agent : Agent) (span : Span) (resource : Option Resource) (sent : SentSpan) :
    Prop where
  name : sent.displayName.value.utf8ByteSize ≤ 128
  attributes : AttributeMap.Fits 33 (span.attributes.sources ++
    (Span.resourceAttributes resource).entries ++ [AttributeMap.agentSource agent]) sent.attributes
  agent : sent.attributes.attributes.get? agentKey = some (.text ⟨agent.text, 0⟩)
  events : List.Forall₂ EventFits (span.events.take 32) sent.events
  eventCount : sent.events.length ≤ 32
  links : List.Forall₂ (fun link sent => AttributeMap.Fits 32 link.attributes.sources
    sent.attributes) (span.links.take 128) sent.links
  linkCount : sent.links.length ≤ 128

namespace Span

variable {target : SpanTarget} {resource : Option Resource} {span : Span} {sent : SentSpan}

/-- Whatever a span has recorded, with whatever resource: what is sent of it is within the limits of
the service, on every level. -/
theorem fits_of_sent (h : span.sent target resource = .ok sent) :
    SpanFits target.agent span resource sent := by
  unfold Span.sent at h
  split at h
  · split at h
    · split at h
      · obtain ⟨displayName, cut, h⟩ := bind_eq_ok h
        obtain ⟨startTime, -, h⟩ := bind_eq_ok h
        obtain ⟨stopTime, -, h⟩ := bind_eq_ok h
        obtain ⟨attributes, built, h⟩ := bind_eq_ok h
        obtain ⟨events, eventsSent, h⟩ := bind_eq_ok h
        obtain ⟨links, linksSent, h⟩ := bind_eq_ok h
        cases h
        obtain rfl := Truncated.eq_cut_of_ofText cut
        have sentEvents := mapM_eq_ok_iff.1 eventsSent
        have sentLinks := mapM_eq_ok_iff.1 linksSent
        obtain ⟨forms, agent⟩ := AttributeMap.formsOf_build_agent built
        exact {
          name := Truncated.utf8ByteSize_cut_le span.name displayNameLimit
          attributes := forms.fits
          agent := agent
          events := sentEvents.imp fun _ _ => fits_of_event
          eventCount := sentEvents.length_eq ▸ List.length_take_le ..
          links := sentLinks.imp fun _ _ => fits_of_link
          linkCount := sentLinks.length_eq ▸ List.length_take_le .. }
      · cases h
    · cases h
  · cases h

namespace Sample

def shop : SpanTarget := ⟨"shop", AttributeMap.Sample.agent⟩

/-- Two of the attributes take one name, one has the agent's, and one is too wide for an integer. -/
def attributes : Fields Value :=
  .ofList [("http.method", .text "GET"), ("/http/method", .text "PUT"), (agentKey, .text "me"),
    ("rows", .int 9223372036854775808)]

def checkout : Span where
  name := "checkout"
  context := some ⟨1, 2⟩
  parent := none
  attributes := ⟨some attributes, 0⟩
  events := [⟨"paid", some 0, ⟨some attributes, 3⟩⟩]
  links := [⟨some ⟨3, 4⟩, ⟨none, 0⟩⟩]
  kind := some .server
  status := .unset
  start := some 0
  stop := some 1

end Sample

/-- Of the two attributes with one name the later stands, and the agent's is its own. -/
theorem fits_of_sent_sample : ∃ sent, Sample.checkout.sent Sample.shop none = .ok sent ∧
    SpanFits AttributeMap.Sample.agent Sample.checkout none sent ∧
    sent.attributes.attributes.entries = [("/http/method", .text ⟨"PUT", 0⟩),
      (agentKey, .text ⟨AttributeMap.Sample.agent.text, 0⟩),
      ("rows", .text ⟨"9223372036854775808", 0⟩)] := by
  have entries : (Sample.checkout.sent Sample.shop none).toOption.map
      (fun sent => sent.attributes.attributes.entries) = some [("/http/method", .text ⟨"PUT", 0⟩),
        (agentKey, .text ⟨AttributeMap.Sample.agent.text, 0⟩),
        ("rows", .text ⟨"9223372036854775808", 0⟩)] := by
    decide +kernel
  cases h : Sample.checkout.sent Sample.shop none with
  | error cause =>
    rw [h] at entries
    cases entries
  | ok sent =>
    rw [h] at entries
    exact ⟨sent, rfl, fits_of_sent h, Option.some.inj entries⟩

end Span

end CloudTelemetry
