import CloudTelemetry.Config.Reference
import Mathlib.Data.List.Basic

/-!
# What a tree refers to

`Value.references` lists the variables to which the texts of a tree refer. The texts of a tree are
the values of its mappings and the items of its lists, at any depth; a key is none of them, and what
is no text, list or mapping is a leaf without texts. Replacing references changes a tree nowhere
else (`expand_of_plain`), and what stands in its way are the references without a value
(`mem_obstacles`).
-/

namespace CloudTelemetry

/-! ### Texts -/

namespace Piece

def name? : Piece → Option Glyphs
  | .literal _ => none
  | .reference name => some name

def source : Piece → List Glyph
  | .literal c => [c]
  | .reference name => .whole '$' :: .whole '{' :: (name.list ++ [.whole '}'])

def opened : Option (List Glyph) → List Glyph
  | none => []
  | some name => .whole '$' :: .whole '{' :: name.reverse

theorem flatMap_source_literals (cs : List Glyph) : (literals cs).flatMap source = cs := by
  induction cs with
  | nil => rfl
  | cons c cs ih => exact congrArg (c :: ·) ih

theorem flatMap_source_scan (name? : Option (List Glyph)) (cs : List Glyph) :
    (scan name? cs).flatMap source = opened name? ++ cs := by
  fun_induction scan name? cs with
  | case1 => rfl
  | case2 rest ih => exact ih
  | case3 c rest _ ih => exact congrArg (c :: ·) ih
  | case4 name => rw [flatMap_source_literals, opened, List.append_nil]
  | case5 rest ih =>
    rw [List.flatMap_append, flatMap_source_literals, ih]
    rfl
  | case6 name rest _ ih =>
    rw [List.flatMap_cons, ih]
    simp [source, opened]
  | case7 name c rest _ _ ih =>
    rw [ih]
    simp [opened]

theorem obstacle?_eq_some {lookup : Lookup} {piece : Piece} {o : Obstacle} :
    piece.obstacle? lookup = some o ↔
      ∃ name, piece.name? = some name ∧ (Piece.reference name).obstacle? lookup = some o := by
  cases piece with
  | literal => simp [obstacle?, name?]
  | reference name => simp [name?]

end Piece

def Glyphs.references (text : Glyphs) : List Glyphs := (Piece.ofText text).filterMap Piece.name?

theorem expandText_of_plain (lookup : Lookup) {text : Glyphs} (h : text.references = []) :
    expandText lookup text = text := by
  have literal : ∀ piece ∈ Piece.ofText text, piece.glyphs lookup = piece.source := by
    intro piece hp
    cases piece with
    | literal => rfl
    | reference => cases List.filterMap_eq_nil_iff.1 h _ hp
  rw [expandText, List.flatMap_congr literal]
  exact congrArg Glyphs.mk (Piece.flatMap_source_scan none text.list)

theorem mem_obstaclesIn {lookup : Lookup} {text : Glyphs} {o : Obstacle} :
    o ∈ obstaclesIn lookup text ↔
      ∃ name ∈ text.references, (Piece.reference name).obstacle? lookup = some o := by
  unfold obstaclesIn Glyphs.references
  simp only [List.mem_filterMap]
  constructor
  · rintro ⟨piece, hp, ho⟩
    obtain ⟨name, hn, ho⟩ := Piece.obstacle?_eq_some.1 ho
    exact ⟨name, ⟨piece, hp, hn⟩, ho⟩
  · rintro ⟨name, ⟨piece, hp, hn⟩, ho⟩
    exact ⟨piece, hp, Piece.obstacle?_eq_some.2 ⟨name, hn, ho⟩⟩

namespace Value

variable {lookup : Lookup}

/-! ### Trees -/

/-- What has no values of its own in which references are looked for. -/
def IsLeaf : Value → Prop
  | .text _ | .broken _ | .list _ | .map _ => False
  | _ => True

/-- Induction on trees, whose lists and mappings have trees as items and values. -/
@[elab_as_elim]
theorem tree_induction {P : Value → Prop} (text : ∀ t, P (.ofGlyphs t))
    (list : ∀ items, (∀ item ∈ items, P item) → P (.list items))
    (map : ∀ entries, (∀ entry ∈ entries, P entry.2) → P (.map entries))
    (leaf : ∀ v : Value, v.IsLeaf → P v) (v : Value) : P v :=
  match v with
  | .text s => ofGlyphs_ofString s ▸ text (.ofString s)
  | .broken t => ofGlyphs_broken t ▸ text t.glyphs
  | .list items => list items fun item _ => tree_induction text list map leaf item
  | .map entries => map entries fun (_, value) _ => tree_induction text list map leaf value
  | .null | .bool _ | .int _ | .float _ | .bytes _ | .moment _ | .tuple _ | .set _
  | .enclosing _ => leaf _ trivial
termination_by v
decreasing_by
  · have := List.sizeOf_lt_of_mem ‹item ∈ items›
    simp only [Value.list.sizeOf_spec]
    omega
  · have := List.sizeOf_lt_of_mem ‹_ ∈ entries›
    simp only [Prod.mk.sizeOf_spec] at this
    simp only [Value.map.sizeOf_spec]
    omega

theorem expandItems_eq_map (lookup : Lookup) (items : List Value) :
    expandItems lookup items = items.map (expand lookup) := by
  induction items with
  | nil => rfl
  | cons item rest ih => rw [expandItems, ih, List.map_cons]

theorem expandEntries_eq_map (lookup : Lookup) (entries : List (Value × Value)) :
    expandEntries lookup entries = entries.map fun entry => (entry.1, entry.2.expand lookup) := by
  induction entries with
  | nil => rfl
  | cons entry rest ih => rw [expandEntries, ih, List.map_cons]

theorem obstaclesInItems_eq_flatMap (lookup : Lookup) (items : List Value) :
    obstaclesInItems lookup items = items.flatMap (obstacles lookup) := by
  induction items with
  | nil => rfl
  | cons item rest ih => rw [obstaclesInItems, ih, List.flatMap_cons]

theorem obstaclesInEntries_eq_flatMap (lookup : Lookup) (entries : List (Value × Value)) :
    obstaclesInEntries lookup entries = entries.flatMap fun entry => entry.2.obstacles lookup := by
  induction entries with
  | nil => rfl
  | cons entry rest ih => rw [obstaclesInEntries, ih, List.flatMap_cons]

theorem anyEndless_eq_any (items : List Value) : anyEndless items = items.any isEndless := by
  induction items with
  | nil => rfl
  | cons item rest ih => rw [anyEndless, ih, List.any_cons]

theorem anyEntryEndless_eq_any (entries : List (Value × Value)) :
    anyEntryEndless entries = entries.any fun entry => entry.2.isEndless := by
  induction entries with
  | nil => rfl
  | cons entry rest ih => rw [anyEntryEndless, ih, List.any_cons]

@[simp] theorem expand_ofGlyphs (lookup : Lookup) (t : Glyphs) :
    (ofGlyphs t).expand lookup = ofGlyphs (expandText lookup t) := by
  rcases ofGlyphs_cases t with ⟨s, rfl, text⟩ | ⟨b, rfl, broken⟩
  · rw [text, expand]
  · rw [broken, expand]

@[simp] theorem obstacles_ofGlyphs (lookup : Lookup) (t : Glyphs) :
    (ofGlyphs t).obstacles lookup = obstaclesIn lookup t := by
  rcases ofGlyphs_cases t with ⟨s, rfl, text⟩ | ⟨b, rfl, broken⟩
  · rw [text, obstacles]
  · rw [broken, obstacles]

theorem expand_of_isLeaf {v : Value} (h : v.IsLeaf) : v.expand lookup = v := by
  cases v <;> first | rfl | exact h.elim

/-! ### References -/

mutual

/-- The names of the variables to which the texts of a tree refer, in their order. -/
def references : Value → List Glyphs
  | .text s => (Glyphs.ofString s).references
  | .broken t => t.glyphs.references
  | .list items => referencesInItems items
  | .map entries => referencesInEntries entries
  | _ => []

def referencesInItems : List Value → List Glyphs
  | [] => []
  | item :: rest => references item ++ referencesInItems rest

def referencesInEntries : List (Value × Value) → List Glyphs
  | [] => []
  | (_, value) :: rest => references value ++ referencesInEntries rest

end

theorem referencesInItems_eq_flatMap (items : List Value) :
    referencesInItems items = items.flatMap references := by
  induction items with
  | nil => rfl
  | cons item rest ih => rw [referencesInItems, ih, List.flatMap_cons]

theorem referencesInEntries_eq_flatMap (entries : List (Value × Value)) :
    referencesInEntries entries = entries.flatMap fun entry => entry.2.references := by
  induction entries with
  | nil => rfl
  | cons entry rest ih => rw [referencesInEntries, ih, List.flatMap_cons]

@[simp] theorem references_ofGlyphs (t : Glyphs) : (ofGlyphs t).references = t.references := by
  rcases ofGlyphs_cases t with ⟨s, rfl, text⟩ | ⟨b, rfl, broken⟩
  · rw [text, references]
  · rw [broken, references]

theorem references_of_isLeaf {v : Value} (h : v.IsLeaf) : v.references = [] := by
  cases v <;> first | rfl | exact h.elim

theorem expand_of_plain (lookup : Lookup) {v : Value} (h : v.references = []) :
    v.expand lookup = v := by
  induction v using tree_induction with
  | text t =>
    rw [references_ofGlyphs] at h
    rw [expand_ofGlyphs, expandText_of_plain lookup h]
  | list items ih =>
    rw [references, referencesInItems_eq_flatMap, List.flatMap_eq_nil_iff] at h
    rw [expand, expandItems_eq_map, List.map_congr_left fun item hi => ih item hi (h item hi),
      List.map_id']
  | map entries ih =>
    rw [references, referencesInEntries_eq_flatMap, List.flatMap_eq_nil_iff] at h
    rw [expand, expandEntries_eq_map,
      List.map_congr_left fun entry he => congrArg (Prod.mk entry.1) (ih entry he (h entry he)),
      List.map_id']
  | leaf v hv => exact expand_of_isLeaf hv

theorem mem_obstacles {v : Value} {o : Obstacle} (ends : o ≠ .endless) :
    o ∈ v.obstacles lookup ↔
      ∃ name ∈ v.references, (Piece.reference name).obstacle? lookup = some o := by
  induction v using tree_induction with
  | text t => rw [obstacles_ofGlyphs, references_ofGlyphs, mem_obstaclesIn]
  | list items ih =>
    rw [obstacles, references, obstaclesInItems_eq_flatMap, referencesInItems_eq_flatMap]
    simp only [List.mem_flatMap]
    constructor
    · rintro ⟨item, hi, ho⟩
      obtain ⟨name, hn, ho⟩ := (ih item hi).1 ho
      exact ⟨name, ⟨item, hi, hn⟩, ho⟩
    · rintro ⟨name, ⟨item, hi, hn⟩, ho⟩
      exact ⟨item, hi, (ih item hi).2 ⟨name, hn, ho⟩⟩
  | map entries ih =>
    rw [obstacles, references, obstaclesInEntries_eq_flatMap, referencesInEntries_eq_flatMap]
    simp only [List.mem_flatMap]
    constructor
    · rintro ⟨entry, he, ho⟩
      obtain ⟨name, hn, ho⟩ := (ih entry he).1 ho
      exact ⟨name, ⟨entry, he, hn⟩, ho⟩
    · rintro ⟨name, ⟨entry, he, hn⟩, ho⟩
      exact ⟨entry, he, (ih entry he).2 ⟨name, hn, ho⟩⟩
  | leaf v hv =>
    rw [references_of_isLeaf hv]
    cases v with
    | enclosing => simp [obstacles, ends]
    | text | broken | list | map => exact hv.elim
    | null | bool | int | float | bytes | moment | tuple | set => simp [obstacles]

/-- Once all references of a tree have been replaced, whatever stood in the way still does. -/
theorem obstacles_expand {v : Value}
    (known : ∀ name ∈ v.references, ∃ value, lookup name = .ok (some value))
    (plain : (v.expand lookup).references = []) :
    (v.expand lookup).obstacles lookup = v.obstacles lookup := by
  induction v using tree_induction with
  | text t =>
    rw [references_ofGlyphs] at known
    rw [expand_ofGlyphs, references_ofGlyphs] at plain
    have before : obstaclesIn lookup t = [] := by
      refine List.eq_nil_iff_forall_not_mem.2 fun o ho => ?_
      obtain ⟨name, hn, ho⟩ := mem_obstaclesIn.1 ho
      obtain ⟨value, hv⟩ := known name hn
      rw [Piece.obstacle?, hv] at ho
      cases ho
    have after : obstaclesIn lookup (expandText lookup t) = [] := by
      refine List.eq_nil_iff_forall_not_mem.2 fun o ho => ?_
      obtain ⟨name, hn, -⟩ := mem_obstaclesIn.1 ho
      rw [plain] at hn
      cases hn
    rw [expand_ofGlyphs, obstacles_ofGlyphs, obstacles_ofGlyphs, before, after]
  | list items ih =>
    rw [references, referencesInItems_eq_flatMap] at known
    rw [expand, references, expandItems_eq_map, referencesInItems_eq_flatMap, List.flatMap_map,
      List.flatMap_eq_nil_iff] at plain
    rw [expand, obstacles, obstacles, expandItems_eq_map, obstaclesInItems_eq_flatMap,
      obstaclesInItems_eq_flatMap, List.flatMap_map]
    exact List.flatMap_congr fun item hi => ih item hi
      (fun name hn => known name (List.mem_flatMap.2 ⟨item, hi, hn⟩)) (plain item hi)
  | map entries ih =>
    rw [references, referencesInEntries_eq_flatMap] at known
    rw [expand, references, expandEntries_eq_map, referencesInEntries_eq_flatMap, List.flatMap_map,
      List.flatMap_eq_nil_iff] at plain
    rw [expand, obstacles, obstacles, expandEntries_eq_map, obstaclesInEntries_eq_flatMap,
      obstaclesInEntries_eq_flatMap, List.flatMap_map]
    exact List.flatMap_congr fun entry he => ih entry he
      (fun name hn => known name (List.mem_flatMap.2 ⟨entry, he, hn⟩)) (plain entry he)
  | leaf v hv => rw [expand_of_isLeaf hv]

theorem lookUp_expandEntries (lookup : Lookup) (entries : List (Value × Value)) (name : String) :
    entry? (expandEntries lookup entries) name =
      (Value.entry? entries name).map (expand lookup) := by
  fun_induction entry? entries name with
  | case1 => rfl
  | case2 v rest => rw [expandEntries, entry?, if_pos rfl, Option.map_some]
  | case3 k v rest hk ih => rw [expandEntries, entry?, if_neg hk, ih]
  | case4 entry rest other ih =>
    obtain ⟨key, value⟩ := entry
    rw [expandEntries, entry?, ih]
    rintro k v ⟨⟩
    exact other k value rfl

end Value

end CloudTelemetry
