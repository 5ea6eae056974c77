import CloudTelemetry.Proofs.Metric.Labels
import CloudTelemetry.Proofs.Span.Selection

/-!
# Resources and the attributes that describe them

The platform selects a table, and each rule of the table gives one label or none (`Gives`). So a
resource is told by its table and by what the attributes hold under the sources of that table
(`describes_ofAttributes`): other attributes, and the order of all of them, make no difference.
-/

namespace CloudTelemetry

namespace Fields
variable {α : Type} {fields other : Fields α}

theorem get?_eq_some_iff {name : String} {v : α} :
    fields.get? name = some v ↔ (name, v) ∈ fields.entries := by
  constructor
  · intro found
    obtain ⟨before, after, split, -⟩ := List.lookup_eq_some_iff.1 found
    exact split ▸ List.mem_append_right _ List.mem_cons_self
  · intro member
    obtain ⟨before, after, split⟩ := List.append_of_mem member
    refine List.lookup_eq_some_iff.2 ⟨before, after, split, fun earlier he => ?_⟩
    have distinct := fields.distinct
    rw [split, List.map_append, List.nodup_append] at distinct
    have apart := distinct.2.2 earlier.1 (List.mem_map_of_mem he) name List.mem_cons_self
    exact bne_iff_ne.2 (Ne.symm apart)

theorem get?_of_perm (h : other.entries.Perm fields.entries) (name : String) :
    other.get? name = fields.get? name :=
  Option.ext fun v => by rw [get?_eq_some_iff, get?_eq_some_iff, h.mem_iff]

end Fields

def Fields.Unset (attributes : Fields Value) (name : String) : Prop :=
  ∀ v, attributes.get? name = some v → v = .null

namespace LabelRule

/-- What a rule gives: the text of the first source that is set, or else its fallback, if it has
one. -/
inductive Gives (attributes : Fields Value) (rule : LabelRule) : Option Glyphs → Prop
  | source {before after : List String} {key : String} {v : Value}
    (split : rule.sources = before ++ key :: after)
    (unset : ∀ other ∈ before, attributes.Unset other)
    (found : attributes.get? key = some v) (set : v ≠ .null) :
    Gives attributes rule (some v.labelText)
  | fallback (unset : ∀ key ∈ rule.sources, attributes.Unset key) :
    Gives attributes rule (rule.fallback.map Glyphs.ofString)

def suppliedBy? (attributes : Fields Value) (source : String) : Option Value :=
  match attributes.get? source with
  | some .null => none
  | found => found

def given? (attributes : Fields Value) (rule : LabelRule) : Option Glyphs :=
  ((rule.supplied? attributes).map Value.labelText).or rule.default

variable {attributes other : Fields Value} {rule : LabelRule}

theorem supplied?_eq (rule : LabelRule) (attributes : Fields Value) :
    rule.supplied? attributes = rule.sources.findSome? (suppliedBy? attributes) := rfl

theorem suppliedBy?_eq_some_iff {source : String} {v : Value} :
    suppliedBy? attributes source = some v ↔ attributes.get? source = some v ∧ v ≠ .null := by
  unfold suppliedBy?
  split
  · rename_i found
    rw [found]
    exact iff_of_false nofun fun ⟨same, set⟩ => set (Option.some.inj same).symm
  · rename_i set
    refine (and_iff_left_of_imp ?_).symm
    rintro found rfl
    exact set found

theorem suppliedBy?_eq_none_iff {source : String} :
    suppliedBy? attributes source = none ↔ attributes.Unset source := by
  rw [Option.eq_none_iff_forall_ne_some]
  unfold Fields.Unset
  simp only [ne_eq, suppliedBy?_eq_some_iff, not_and, not_not]

theorem gives_iff {given : Option Glyphs} :
    rule.Gives attributes given ↔ given = rule.given? attributes := by
  unfold given?
  rw [supplied?_eq]
  constructor
  · rintro (⟨split, unset, found, set⟩ | unset)
    · rw [List.findSome?_eq_some_iff.2 ⟨_, _, _, split, suppliedBy?_eq_some_iff.2 ⟨found, set⟩,
        fun other ho => suppliedBy?_eq_none_iff.2 (unset other ho)⟩]
      rfl
    · rw [List.findSome?_eq_none_iff.2 fun key hk => suppliedBy?_eq_none_iff.2 (unset key hk)]
      rfl
  · rintro rfl
    cases first : rule.sources.findSome? (suppliedBy? attributes) with
    | none =>
      exact .fallback fun key hk =>
        suppliedBy?_eq_none_iff.1 (List.findSome?_eq_none_iff.1 first key hk)
    | some v =>
      obtain ⟨before, key, after, split, here, none⟩ := List.findSome?_eq_some_iff.1 first
      obtain ⟨found, set⟩ := suppliedBy?_eq_some_iff.1 here
      exact .source split (fun other ho => suppliedBy?_eq_none_iff.1 (none other ho)) found set

theorem mem_of_supplied? {v : Value} (h : rule.supplied? attributes = some v) :
    ∃ key, (key, v) ∈ attributes.entries := by
  rw [supplied?_eq] at h
  obtain ⟨_, key, _, -, here, -⟩ := List.findSome?_eq_some_iff.1 h
  exact ⟨key, Fields.get?_eq_some_iff.1 (suppliedBy?_eq_some_iff.1 here).1⟩

theorem resolve_eq (writable : AllWritable attributes) (rule : LabelRule) :
    rule.resolve attributes = .ok (rule.given? attributes) := by
  unfold resolve given?
  cases supplied : rule.supplied? attributes with
  | none => rfl
  | some v =>
    obtain ⟨key, mem⟩ := mem_of_supplied? supplied
    show (some <$> v.label) = _
    unfold Value.label
    rw [Value.checkWritable, if_pos (writable _ mem)]
    rfl

theorem supplied?_congr (h : ∀ key ∈ rule.sources, other.get? key = attributes.get? key) :
    rule.supplied? other = rule.supplied? attributes := by
  rw [supplied?_eq, supplied?_eq]
  generalize rule.sources = sources at h
  induction sources with
  | nil => rfl
  | cons key sources ih =>
    obtain ⟨here, later⟩ := List.forall_mem_cons.1 h
    rw [List.findSome?_cons, List.findSome?_cons, ih later, suppliedBy?, suppliedBy?, here]

end LabelRule

namespace Resource
variable {attributes other : Fields Value}

/-! ### Tables -/

/-- Which table the platform selects: its own, or the generic one if it is none of the known. -/
inductive Selects : Option Value → Table → Prop
  | known {platform : String} {table : Table} (h : (platform, table) ∈ platforms) :
    Selects (some (.text platform)) table
  | unknown {v : Option Value} (h : ∀ platform ∈ platforms, v ≠ some (.text platform.1)) :
    Selects v genericTable

theorem Selects.eq_tableOf {v : Option Value} {table : Table} (h : Selects v table) :
    table = tableOf v := by
  cases h with
  | known h =>
    have distinct : (platforms.map Prod.fst).Nodup := by decide
    let tables : Fields Table := ⟨platforms, distinct⟩
    have found : tables.get? _ = some table := Fields.get?_eq_some_iff.2 h
    change platforms.lookup _ = some table at found
    rw [tableOf, found]
    rfl
  | unknown h =>
    unfold tableOf
    split
    · rename_i platform
      rw [List.lookup_eq_none_iff.2]
      · rfl
      · intro known hk
        refine bne_iff_ne.2 ?_
        rintro rfl
        exact h known hk rfl
    · rfl

theorem selects_tableOf (v : Option Value) : Selects v (tableOf v) := by
  unfold tableOf
  split
  · rename_i platform
    cases found : platforms.lookup platform with
    | some table =>
      obtain ⟨before, after, split, -⟩ := List.lookup_eq_some_iff.1 found
      exact .known (split ▸ List.mem_append_right _ List.mem_cons_self)
    | none =>
      refine .unknown fun known hk same => ?_
      cases same
      exact bne_iff_ne.1 (List.lookup_eq_none_iff.1 found known hk) rfl
  · rename_i other
    exact .unknown fun known _ same => other known.1 same

/-! ### Labels -/

/-- The labels that rules give, in the order of the rules. -/
inductive Labels (attributes : Fields Value) : List LabelRule → List (String × Value) → Prop
  | nil : Labels attributes [] []
  | given {rule : LabelRule} {rules : List LabelRule} {text : Glyphs}
    {labels : List (String × Value)} (h : rule.Gives attributes (some text))
    (rest : Labels attributes rules labels) :
    Labels attributes (rule :: rules) ((rule.label, .ofGlyphs text) :: labels)
  | omitted {rule : LabelRule} {rules : List LabelRule} {labels : List (String × Value)}
    (h : rule.Gives attributes none) (rest : Labels attributes rules labels) :
    Labels attributes (rule :: rules) labels

def label? (attributes : Fields Value) (rule : LabelRule) : Option (String × Value) :=
  (rule.given? attributes).map fun text => (rule.label, .ofGlyphs text)

theorem labels_iff {rules : List LabelRule} {labels : List (String × Value)} :
    Labels attributes rules labels ↔ labels = rules.filterMap (label? attributes) := by
  constructor
  · intro h
    induction h with
    | nil => rfl
    | given h rest ih => rw [ih, List.filterMap_cons, label?, ← LabelRule.gives_iff.1 h]; rfl
    | omitted h rest ih => rw [ih, List.filterMap_cons, label?, ← LabelRule.gives_iff.1 h]; rfl
  · rintro rfl
    induction rules with
    | nil => exact .nil
    | cons rule rules ih =>
      rw [List.filterMap_cons]
      cases given : rule.given? attributes with
      | none =>
        rw [label?, given]
        exact .omitted (LabelRule.gives_iff.2 given.symm) ih
      | some text =>
        rw [label?, given]
        exact .given (LabelRule.gives_iff.2 given.symm) ih

theorem Selects.distinct_labels {v : Option Value} {table : Table} (h : Selects v table) :
    (table.rules.map LabelRule.label).Nodup := by
  cases h with
  | known h =>
    have all : ∀ known ∈ platforms, (known.2.rules.map LabelRule.label).Nodup := by decide
    exact all _ h
  | unknown => decide

theorem labelsOf_eq (writable : AllWritable attributes) (rules : List LabelRule) :
    labelsOf rules attributes = .ok (.ofList (rules.filterMap (label? attributes))) := by
  have each : rules.mapM (fun rule => rule.labelled? attributes) =
      .ok (rules.map (label? attributes)) := by
    rw [mapM_eq_ok_iff, List.forall₂_map_right_iff, List.forall₂_same]
    intro rule _
    unfold LabelRule.labelled?
    rw [LabelRule.resolve_eq writable]
    rfl
  unfold labelsOf
  rw [each]
  exact congrArg (fun labels => Except.ok (Fields.ofList labels)) (List.filterMap_map ..)

theorem entries_ofList_label? {rules : List LabelRule}
    (distinct : (rules.map LabelRule.label).Nodup) (attributes : Fields Value) :
    (Fields.ofList (rules.filterMap (label? attributes))).entries =
      rules.filterMap (label? attributes) := by
  apply Fields.entries_ofList
  refine distinct.sublist ?_
  clear distinct
  induction rules with
  | nil => exact .slnil
  | cons rule rules ih =>
    rw [List.filterMap_cons, List.map_cons]
    unfold label?
    cases rule.given? attributes with
    | none => exact ih.cons _
    | some => exact ih.cons_cons _

theorem labelsOf_congr {rules : List LabelRule}
    (h : ∀ rule ∈ rules, ∀ key ∈ rule.sources, other.get? key = attributes.get? key) :
    labelsOf rules other = labelsOf rules attributes := by
  have same : rules.mapM (fun rule => rule.labelled? other) =
      rules.mapM fun rule => rule.labelled? attributes := by
    induction rules with
    | nil => rfl
    | cons rule rules ih =>
      obtain ⟨here, later⟩ := List.forall_mem_cons.1 h
      have first : rule.labelled? other = rule.labelled? attributes := by
        unfold LabelRule.labelled? LabelRule.resolve
        rw [LabelRule.supplied?_congr here]
      rw [List.mapM_cons, List.mapM_cons, first, ih later]
  unfold labelsOf
  rw [same]

theorem map_fst_label? {rules : List LabelRule}
    (fallbacks : ∀ rule ∈ rules, rule.fallback.isSome = true) (attributes : Fields Value) :
    (rules.filterMap (label? attributes)).map Prod.fst = rules.map LabelRule.label := by
  induction rules with
  | nil => rfl
  | cons rule rules ih =>
    obtain ⟨here, later⟩ := List.forall_mem_cons.1 fallbacks
    obtain ⟨fallback, hf⟩ := Option.isSome_iff_exists.1 here
    obtain ⟨text, given⟩ : ∃ text, rule.given? attributes = some text := by
      unfold LabelRule.given? LabelRule.default
      rw [hf]
      cases rule.supplied? attributes with
      | none => exact ⟨fallback, rfl⟩
      | some v => exact ⟨v.labelText, rfl⟩
    rw [List.filterMap_cons, label?, given, List.map_cons, ← ih later]
    rfl

/-- What a resource is that attributes describe: its table is the one that the platform selects, and
its labels are those that the rules of the table give. -/
structure Describes (attributes : Fields Value) (table : Table) (resource : Resource) : Prop where
  selected : ∀ other, Selects (attributes.get? platformKey) other ↔ other = table
  type : resource.type = table.type
  labels : ∀ labels, Labels attributes table.rules labels ↔ labels = resource.labels.entries
  complete : table = genericTable →
    resource.labels.names = ["location", "namespace", "job", "task_id"]

theorem describes_tableOf (attributes : Fields Value) :
    Describes attributes (tableOf (attributes.get? platformKey))
      ⟨(tableOf (attributes.get? platformKey)).type, .ofList
        ((tableOf (attributes.get? platformKey)).rules.filterMap (label? attributes))⟩ where
  selected other := by
    constructor
    · exact Selects.eq_tableOf
    · rintro rfl
      exact selects_tableOf _
  type := rfl
  labels labels := by
    rw [entries_ofList_label? (selects_tableOf _).distinct_labels]
    exact labels_iff
  complete generic := by
    unfold Fields.names
    rw [entries_ofList_label? (selects_tableOf _).distinct_labels, generic,
      map_fst_label? (by decide)]
    rfl

theorem ofAttributes_of_mayBeKey
    (h : ((attributes.get? platformKey).getD .null).mayBeKey = true)
    (writable : AllWritable attributes) :
    ofAttributes attributes = .ok ⟨(tableOf (attributes.get? platformKey)).type, .ofList
      ((tableOf (attributes.get? platformKey)).rules.filterMap (label? attributes))⟩ := by
  unfold ofAttributes
  dsimp only
  rw [if_pos h, labelsOf_eq writable]
  rfl

/-- Attributes that agree on the platform and on the sources of its table describe one resource. -/
theorem ofAttributes_congr (platform : other.get? platformKey = attributes.get? platformKey)
    (sources : ∀ rule ∈ (tableOf (attributes.get? platformKey)).rules, ∀ key ∈ rule.sources,
      other.get? key = attributes.get? key) :
    ofAttributes other = ofAttributes attributes := by
  unfold ofAttributes
  dsimp only
  rw [platform, labelsOf_congr sources]

/-- Attributes with written forms, whose platform can be looked up if they name one, describe a
resource. Only the platform and the sources of its table matter, and the order of the attributes
does not. -/
theorem describes_ofAttributes {attributes : Fields Value}
    (h : ((attributes.get? platformKey).getD .null).mayBeKey = true)
    (writable : AllWritable attributes) :
    ∃ table resource, ofAttributes attributes = .ok resource ∧
      Describes attributes table resource ∧
      (∀ other : Fields Value, other.get? platformKey = attributes.get? platformKey →
        (∀ rule ∈ table.rules, ∀ key ∈ rule.sources, other.get? key = attributes.get? key) →
        ofAttributes other = .ok resource) ∧
      ∀ other : Fields Value, other.entries.Perm attributes.entries →
        ofAttributes other = .ok resource := by
  have made := ofAttributes_of_mayBeKey h writable
  refine ⟨_, _, made, describes_tableOf attributes, fun other platform sources => ?_,
    fun other perm => ?_⟩
  · rw [ofAttributes_congr platform sources, made]
  · have same := Fields.get?_of_perm perm
    rw [ofAttributes_congr (same _) fun _ _ key _ => same key, made]

namespace Sample

def container : Fields Value :=
  .ofList [("k8s.pod.name", .int 7), (platformKey, .text "gcp_kubernetes_engine"),
    ("cloud.region", .text "europe-west1"), ("cloud.availability_zone", .text "europe-west1-b"),
    ("k8s.cluster.name", .null), ("team", .text "checkout")]

end Sample

theorem describes_ofAttributes_container :
    ∃ table resource, ofAttributes Sample.container = .ok resource ∧
      Describes Sample.container table resource ∧ resource.type = "k8s_container" ∧
      resource.labels.entries =
        [("location", .text "europe-west1-b"), ("pod_name", .text "7")] := by
  have named : ((Sample.container.get? platformKey).getD .null).mayBeKey = true := rfl
  have writable : AllWritable Sample.container := by decide +kernel
  obtain ⟨table, resource, made, describes, -⟩ := describes_ofAttributes named writable
  refine ⟨table, resource, made, describes, ?_⟩
  rw [ofAttributes_of_mayBeKey named writable] at made
  cases made
  exact ⟨rfl, rfl⟩

end Resource

end CloudTelemetry
