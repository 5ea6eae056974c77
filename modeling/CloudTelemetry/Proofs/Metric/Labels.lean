import CloudTelemetry.Metric.Series
import CloudTelemetry.Proofs.Outcomes

/-!
# Labels that are sent

Labels are texts, and all characters of a text must be whole to be sent. The labels of a point are
its attributes and what is known of its scope (`ends_pointLabels`); those of an exemplar are the
attributes that the point does not have (`Exemplar.ends_attachments`). Attributes with an integer
that has no written form are no labels at all.
-/

namespace CloudTelemetry

/-! ### Texts -/

/-- All values are texts, in which halves of characters may stand. -/
def AllText (labels : List (String × Value)) : Prop := ∀ label ∈ labels, ∃ t, label.2 = .ofGlyphs t

/-- All values are texts of whole characters. -/
def AllWhole (labels : List (String × Value)) : Prop := ∀ label ∈ labels, ∃ s, label.2 = .text s

/-- No integer in the values is too long to be written. -/
def AllWritable (fields : Fields Value) : Prop := ∀ a ∈ fields.entries, a.2.isWritable = true

instance (fields : Fields Value) : Decidable (AllWritable fields) :=
  inferInstanceAs (Decidable (∀ a ∈ fields.entries, a.2.isWritable = true))

def asText (label : String × String) : String × Value := (label.1, .text label.2)

theorem ends_textLabel {label : String × Value} (text : ∃ t, label.2 = .ofGlyphs t) :
    Ends (· = .defect .halfCharacter) (∃ s, label.2 = .text s) (fun sent => label = asText sent)
      (textLabel label) := by
  obtain ⟨t, ht⟩ := text
  unfold textLabel
  rw [ht]
  rcases Value.ofGlyphs_cases t with ⟨s, -, whole⟩ | ⟨b, -, broken⟩
  · rw [whole] at ht ⊢
    exact .holds ⟨s, rfl⟩ (Prod.ext rfl ht)
  · rw [broken]
    exact .fails nofun rfl

theorem ends_textLabels {fields : Fields Value} (texts : AllText fields.entries) :
    Ends (· = .defect .halfCharacter) (AllWhole fields.entries)
      (fun sent => sent.map asText = fields.entries) (textLabels fields) := by
  refine (Ends.mapM fun label hl => ends_textLabel (texts label hl)).imp Iff.rfl fun sent each => ?_
  rw [← List.forall₂_eq_eq_eq, List.forall₂_map_left_iff]
  exact each.flip.imp fun _ _ => Eq.symm

/-! ### Attributes -/

def writtenLabels (attributes : Fields Value) : List (String × Value) :=
  attributes.entries.map fun entry => (entry.1, .ofGlyphs entry.2.labelText)

theorem allText_writtenLabels (attributes : Fields Value) : AllText (writtenLabels attributes) := by
  intro label hl
  obtain ⟨entry, -, rfl⟩ := List.mem_map.1 hl
  exact ⟨_, rfl⟩

theorem ends_labelFields (attributes : Fields Value) :
    Ends (· = .defect .badValue) (AllWritable attributes)
      (fun fields => fields.entries = writtenLabels attributes) (labelFields attributes) := by
  exact (Ends.forM fun entry _ => entry.2.ends_checkWritable).bind_pure fun _ _ => rfl

theorem ends_writtenLabels {failure : Failure → Prop} (attributes : Fields Value)
    (unwritable : ¬ AllWritable attributes → failure (.defect .badValue))
    (halves : ¬ AllWhole (writtenLabels attributes) → failure (.defect .halfCharacter)) :
    Ends failure (AllWritable attributes ∧ AllWhole (writtenLabels attributes))
      (fun sent => sent.map asText = writtenLabels attributes)
      (do textLabels (← labelFields attributes)) := by
  refine ((ends_labelFields attributes).weaken fun no => ?_).bind fun own h => ?_
  · rintro _ rfl
    exact unwritable no
  · rw [← h] at halves ⊢
    refine (ends_textLabels (h ▸ allText_writtenLabels attributes)).weaken fun no => ?_
    rintro _ rfl
    exact halves no

/-! ### Points -/

/-- The name of a scope is text, and so is its version, if it has one. -/
def Named (scope : Option Scope) : Prop :=
  ∀ s, scope = some s → (∃ name, s.name = .ofGlyphs name) ∧
    (s.version.isPresent = true → ∃ version, s.version = .ofGlyphs version)

def Value.textOrEmpty : Value → Value
  | .text s => .text s
  | .broken t => .broken t
  | _ => .text ""

theorem Value.textOrEmpty_ofGlyphs (t : Glyphs) : (ofGlyphs t).textOrEmpty = ofGlyphs t := by
  rcases ofGlyphs_cases t with ⟨s, -, h⟩ | ⟨b, -, h⟩ <;> rw [h] <;> rfl

theorem Value.exists_textOrEmpty (v : Value) : ∃ t, v.textOrEmpty = ofGlyphs t := by
  cases v with
  | text s => exact ⟨s, (ofGlyphs_ofString s).symm⟩
  | broken b => exact ⟨b.glyphs, (ofGlyphs_broken b).symm⟩
  | _ => exact ⟨Glyphs.ofString "", (ofGlyphs_ofString "").symm⟩

theorem Value.textOrEmpty_of_absent {v : Value} (h : v.isPresent = false) :
    v.textOrEmpty = .text "" := by
  cases v with
  | text s =>
    have empty : s = "" := by simpa [isPresent] using h
    rw [textOrEmpty, empty]
  | broken b => cases h
  | _ => rfl

/-- The labels of a point: its attributes, and after them those of its scope whose names are not
taken. What is missing is the empty text. -/
def sentLabels (attributes : Option (Fields Value)) (scope : Option Scope) :
    List (String × Value) :=
  let own := attributes.getD .empty
  let name := (scope.map fun s => s.name.textOrEmpty).getD (.text "")
  let version := (scope.map fun s => s.version.textOrEmpty).getD (.text "")
  writtenLabels own ++
    (if scopeNameLabel ∈ own.names then [] else [(scopeNameLabel, name)]) ++
    if scopeVersionLabel ∈ own.names then [] else [(scopeVersionLabel, version)]

theorem Named.texts {scope : Option Scope} (named : Named scope) :
    (scope.map Scope.name).getD (.text "") =
      (scope.map fun s => s.name.textOrEmpty).getD (.text "") ∧
    ((scope.map Scope.version).getD (.text "")).orElse (.text "") =
      (scope.map fun s => s.version.textOrEmpty).getD (.text "") := by
  cases scope with
  | none => exact ⟨rfl, rfl⟩
  | some s =>
    obtain ⟨⟨name, hn⟩, hv⟩ := named s rfl
    simp only [Option.map_some, Option.getD_some]
    refine ⟨by rw [hn, Value.textOrEmpty_ofGlyphs], ?_⟩
    unfold Value.orElse
    cases present : s.version.isPresent with
    | true =>
      obtain ⟨version, hv⟩ := hv present
      rw [hv, Value.textOrEmpty_ofGlyphs]
      rfl
    | false => exact (Value.textOrEmpty_of_absent present).symm

theorem allText_sentLabels (attributes : Option (Fields Value)) (scope : Option Scope) :
    AllText (sentLabels attributes scope) := by
  have known (read : Scope → Value) :
      ∃ t, (scope.map fun s => (read s).textOrEmpty).getD (.text "") = .ofGlyphs t := by
    cases scope with
    | none => exact ⟨Glyphs.ofString "", (Value.ofGlyphs_ofString "").symm⟩
    | some s => exact (read s).exists_textOrEmpty
  unfold sentLabels AllText
  simp only [List.forall_mem_append]
  refine ⟨⟨allText_writtenLabels _, ?_⟩, ?_⟩
  · split
    · exact nofun
    · exact List.forall_mem_singleton.2 (known Scope.name)
  · split
    · exact nofun
    · exact List.forall_mem_singleton.2 (known Scope.version)

theorem entries_setDefaults {scope : Option Scope} (named : Named scope)
    {attributes : Option (Fields Value)} {own : Fields Value}
    (h : own.entries = writtenLabels (attributes.getD .empty)) :
    ((own.setDefault scopeNameLabel ((scope.map Scope.name).getD (.text ""))).setDefault
      scopeVersionLabel (((scope.map Scope.version).getD (.text "")).orElse (.text ""))).entries =
      sentLabels attributes scope := by
  have apart : scopeVersionLabel ≠ scopeNameLabel := by decide
  have names : own.names = (attributes.getD .empty).names := by
    unfold Fields.names
    rw [h, writtenLabels, List.map_map]
    rfl
  rw [named.texts.1, named.texts.2, Fields.entries_setDefault, Fields.entries_setDefault, h]
  simp only [Fields.mem_names_setDefault_of_ne apart, names]
  rfl

/-- The labels of a point are sent if its attributes have written forms and all characters are
whole. -/
theorem ends_pointLabels {failure : Failure → Prop} {scope : Option Scope} (named : Named scope)
    {attributes : Option (Fields Value)}
    (unwritable : ¬ AllWritable (attributes.getD .empty) → failure (.defect .badValue))
    (halves : ¬ AllWhole (sentLabels attributes scope) → failure (.defect .halfCharacter)) :
    Ends failure
      (AllWritable (attributes.getD .empty) ∧ AllWhole (sentLabels attributes scope))
      (fun sent => sent.map asText = sentLabels attributes scope)
      (pointLabels attributes scope) := by
  unfold pointLabels
  refine ((ends_labelFields _).weaken fun no => ?_).bind fun own h => ?_
  · rintro _ rfl
    exact unwritable no
  · have entries := entries_setDefaults named h
    have texts := entries ▸ allText_sentLabels attributes scope
    rw [← entries] at halves ⊢
    refine (ends_textLabels texts).weaken fun no => ?_
    rintro _ rfl
    exact halves no

structure DataPoint.Labelled (scope : Option Scope) (point : DataPoint) : Prop where
  writable : AllWritable (point.attributes.getD .empty)
  whole : AllWhole (sentLabels point.attributes scope)

/-! ### Exemplars -/

namespace Exemplar

def ownLabels (e : Exemplar) : List (String × Value) := writtenLabels (e.filtered.getD .empty)

structure Labelled (e : Exemplar) : Prop where
  writable : AllWritable (e.filtered.getD .empty)
  whole : AllWhole e.ownLabels

/-- What is attached to an exemplar: its span, if it has one, and its labels, if it has any. -/
def Attaches (project : String) (e : Exemplar) (attachments : List Attachment) : Prop :=
  ∃ labels : List (String × String), labels.map asText = e.ownLabels ∧
    attachments = (e.span?.map fun context => Attachment.span (spanName project context)).toList ++
      if labels = [] then [] else [.labels labels]

theorem ends_labels? {failure : Failure → Prop} {e : Exemplar}
    (unwritable : ¬ AllWritable (e.filtered.getD .empty) → failure (.defect .badValue))
    (halves : ¬ AllWhole e.ownLabels → failure (.defect .halfCharacter)) :
    Ends failure e.Labelled (fun attached => ∃ labels : List (String × String),
        labels.map asText = e.ownLabels ∧
          attached = if labels = [] then none else some labels)
      e.labels? := by
  have labelled : AllWritable (e.filtered.getD .empty) ∧ AllWhole e.ownLabels ↔ e.Labelled :=
    ⟨fun h => ⟨h.1, h.2⟩, fun h => ⟨h.writable, h.whole⟩⟩
  rw [← labelled]
  clear labelled
  unfold ownLabels at halves ⊢
  unfold labels?
  generalize e.filtered = recorded at unwritable halves ⊢
  cases recorded with
  | none => exact .holds ⟨nofun, nofun⟩ ⟨[], rfl, rfl⟩
  | some filtered =>
    dsimp only [Option.getD_some] at unwritable halves ⊢
    have isEmpty : filtered.isEmpty = true ↔ filtered.entries = [] := List.isEmpty_iff
    by_cases empty : filtered.entries = []
    · have bare : writtenLabels filtered = [] := by rw [writtenLabels, empty, List.map_nil]
      have unwritten : AllWritable filtered := by
        unfold AllWritable
        rw [empty]
        exact nofun
      rw [bare, if_pos (isEmpty.2 empty)]
      exact .holds ⟨unwritten, nofun⟩ ⟨[], rfl, rfl⟩
    · rw [if_neg fun h => empty (isEmpty.1 h)]
      have kept : Ends failure _ (fun attached => ∃ labels : List (String × String),
          labels.map asText = writtenLabels filtered ∧
            attached = if labels = [] then none else some labels) _ :=
        (ends_writtenLabels filtered unwritable halves).bind_pure fun labels told =>
          ⟨labels, told, (if_neg fun bare => empty ?_).symm⟩
      · rwa [bind_assoc] at kept
      · rw [bare, List.map_nil] at told
        exact List.map_eq_nil_iff.1 told.symm

theorem ends_attachments {failure : Failure → Prop} {e : Exemplar} (project : String)
    (unwritable : ¬ AllWritable (e.filtered.getD .empty) → failure (.defect .badValue))
    (halves : ¬ AllWhole e.ownLabels → failure (.defect .halfCharacter)) :
    Ends failure e.Labelled (e.Attaches project) (e.attachments project) := by
  refine (ends_labels? unwritable halves).bind_pure ?_
  rintro _ ⟨labels, told, rfl⟩
  refine ⟨labels, told, ?_⟩
  split <;> rfl

end Exemplar

end CloudTelemetry
