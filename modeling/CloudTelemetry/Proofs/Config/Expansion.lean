import CloudTelemetry.Proofs.Config.Modes
import Mathlib.Data.List.Forall2

/-!
# Replacing references

A text is taken apart at its references from the left, and what is put in their place is not looked
at again. Two rules say all of this (`IsSubstitution`): a text without a reference stays as it is,
and the first reference gives way to its value while the rest is treated in the same way. In a tree
the texts are replaced and nothing else (`TextsReplaced`). `expands_iff` says when a tree can be
expanded as promised, and what breaks the expansion off otherwise: a name that cannot be looked up.
-/

namespace CloudTelemetry

/-! ### References in a text -/

namespace Glyphs

theorem list_append (u v : Glyphs) : (u ++ v).list = u.list ++ v.list := rfl

theorem eq_of_list {u v : Glyphs} (h : u.list = v.list) : u = v := by
  cases u
  exact congrArg mk h

/-- A name is not empty and holds no closing brace. -/
structure IsName (name : Glyphs) : Prop where
  nonempty : name.list ≠ []
  unclosed : .whole '}' ∉ name.list

def referenceTo (name : Glyphs) : Glyphs := ⟨.whole '$' :: .whole '{' :: (name.list ++ [.whole '}'])⟩

def HasReference (text : Glyphs) : Prop :=
  ∃ u name v : Glyphs, name.IsName ∧ text = u ++ name.referenceTo ++ v

/-- Whatever the text opens it closes at once, so that no reference begins in it. -/
def ClosesAtOnce (u : Glyphs) : Prop :=
  ∀ a b, u.list = a ++ .whole '$' :: .whole '{' :: b → b.head? = some (.whole '}')

variable {u name v text : Glyphs}

theorem HasReference.exists_first (h : text.HasReference) :
    ∃ u name v : Glyphs, u.ClosesAtOnce ∧ name.IsName ∧ text = u ++ name.referenceTo ++ v := by
  obtain ⟨u, name, v, hn, rfl⟩ := h
  induction hk : u.list.length using Nat.strongRecOn generalizing u name v with
  | ind k ih =>
    by_cases closed : u.ClosesAtOnce
    · exact ⟨u, name, v, closed, hn, rfl⟩
    · -- an opening in `u` that is not closed at once goes on at least to the brace of the reference
      simp only [ClosesAtOnce, not_forall] at closed
      obtain ⟨a, b, hu, hb⟩ := closed
      have brace : .whole '}' ∈ b ++ (name.referenceTo ++ v).list := by
        simp [referenceTo, list_append]
      obtain ⟨inner, rest, split, unclosed⟩ := List.eq_append_cons_of_mem brace
      have nonempty : inner ≠ [] := by
        rintro rfl
        cases b with
        | nil => simp [referenceTo, list_append] at split
        | cons c b => exact hb (congrArg some (List.cons.inj split).1)
      have shorter : a.length < k := by
        rw [← hk, hu]
        simp
      have same : u ++ name.referenceTo ++ v = ⟨a⟩ ++ referenceTo ⟨inner⟩ ++ ⟨rest⟩ := by
        have lists := congrArg (a ++ .whole '$' :: .whole '{' :: ·) split
        apply eq_of_list
        simpa [list_append, hu, referenceTo] using lists
      rw [same]
      exact ih _ shorter ⟨a⟩ ⟨inner⟩ ⟨rest⟩ ⟨nonempty, unclosed⟩ rfl

/-- Induction on texts, from one reference to the next. -/
@[elab_as_elim]
theorem reference_induction {P : Glyphs → Prop}
    (plain : ∀ text : Glyphs, ¬ text.HasReference → P text)
    (reference : ∀ u name v : Glyphs, u.ClosesAtOnce → name.IsName → P v →
      P (u ++ name.referenceTo ++ v)) (text : Glyphs) : P text := by
  induction hk : text.list.length using Nat.strongRecOn generalizing text with
  | ind k ih =>
    by_cases has : text.HasReference
    · obtain ⟨u, name, v, closed, hn, rfl⟩ := has.exists_first
      refine reference u name v closed hn (ih _ ?_ v rfl)
      rw [← hk, list_append, list_append]
      simp [referenceTo]
      omega
    · exact plain text has

end Glyphs

/-! ### One pass -/

namespace Piece
variable {acc name rest : List Glyph}

theorem scan_open (nonempty : acc ≠ [] ∨ name ≠ []) (unclosed : .whole '}' ∉ name) :
    scan (some acc) (name ++ .whole '}' :: rest) =
      .reference ⟨acc.reverse ++ name⟩ :: scan none rest := by
  induction name generalizing acc with
  | nil =>
    cases acc with
    | nil => exact absurd nonempty (by simp)
    | cons c acc => simp [scan]
  | cons c name ih =>
    obtain ⟨other, unclosed⟩ := not_or.1 (List.mem_cons.not.1 unclosed)
    have step : scan (some acc) (c :: (name ++ .whole '}' :: rest)) =
        scan (some (c :: acc)) (name ++ .whole '}' :: rest) := by
      cases acc <;> rw [scan] <;> simp [Ne.symm other]
    rw [List.cons_append, step, ih (.inl (List.cons_ne_nil _ _)) unclosed]
    simp

theorem scan_literal {c : Glyph} {cs : List Glyph}
    (h : c = .whole '$' → cs.head? ≠ some (.whole '{')) :
    scan none (c :: cs) = .literal c :: scan none cs := by
  rw [scan]
  rintro later rfl rfl
  exact h rfl rfl

theorem scan_first {name : Glyphs} (hn : name.IsName) (rest u : List Glyph)
    (closed : Glyphs.ClosesAtOnce ⟨u⟩) :
    scan none (u ++ (name.referenceTo.list ++ rest)) =
      literals u ++ .reference name :: scan none rest := by
  have opening : name.referenceTo.list ++ rest =
      .whole '$' :: .whole '{' :: (name.list ++ .whole '}' :: rest) := by
    simp [Glyphs.referenceTo]
  have tail {c : Glyph} {u : List Glyph} (h : Glyphs.ClosesAtOnce ⟨c :: u⟩) :
      Glyphs.ClosesAtOnce ⟨u⟩ := fun a b hu => h (c :: a) b (congrArg (c :: ·) hu)
  match u with
  | [] =>
    rw [opening]
    exact scan_open (.inr hn.nonempty) hn.unclosed
  | [c] =>
    have next := scan_first hn rest [] (tail closed)
    rw [opening] at next ⊢
    exact (scan_literal fun _ => by simp).trans (congrArg (.literal c :: ·) next)
  | c :: d :: u =>
    by_cases opens : c = .whole '$' ∧ d = .whole '{'
    · obtain ⟨rfl, rfl⟩ := opens
      obtain ⟨u, rfl⟩ : ∃ later, u = .whole '}' :: later :=
        List.head?_eq_some_iff.1 (closed [] u rfl)
      exact congrArg (literals [.whole '$', .whole '{', .whole '}'] ++ ·)
        (scan_first hn rest u (tail (tail (tail closed))))
    · have next := scan_first hn rest (d :: u) (tail closed)
      refine (scan_literal fun first second => opens ⟨first, ?_⟩).trans
        (congrArg (.literal c :: ·) next)
      exact Option.some.inj second
termination_by u.length

theorem isName_of_mem_scan {name? : Option (List Glyph)} {cs : List Glyph} {name : Glyphs}
    (unclosed : ∀ acc ∈ name?, .whole '}' ∉ acc) (h : .reference name ∈ scan name? cs) :
    name.IsName := by
  have literal {cs : List Glyph} : .reference name ∉ literals cs := by
    simp [literals]
  have fresh : ∀ acc ∈ (none : Option (List Glyph)), .whole '}' ∉ acc := by simp
  fun_induction scan name? cs with
  | case1 => cases h
  | case2 rest ih => exact ih (by simp) h
  | case3 c rest _ ih =>
    rcases List.mem_cons.1 h with h | h
    · cases h
    · exact ih fresh h
  | case4 acc => exact (literal h).elim
  | case5 rest ih => exact ih fresh ((List.mem_append.1 h).resolve_left literal)
  | case6 acc rest nonempty ih =>
    rcases List.mem_cons.1 h with h | h
    · cases h
      exact ⟨by simpa using nonempty, by simpa using unclosed acc rfl⟩
    · exact ih fresh h
  | case7 acc c rest _ other ih =>
    refine ih ?_ h
    rintro _ ⟨⟩ closing
    rcases List.mem_cons.1 closing with rfl | closing
    · exact other rfl
    · exact unclosed acc rfl closing

end Piece

namespace Glyphs

theorem ofText_first {u name : Glyphs} (closed : u.ClosesAtOnce) (hn : name.IsName) (v : Glyphs) :
    Piece.ofText (u ++ name.referenceTo ++ v) =
      Piece.literals u.list ++ .reference name :: Piece.ofText v := by
  have first := Piece.scan_first hn v.list u.list closed
  rwa [← List.append_assoc] at first

theorem references_of_not_hasReference {text : Glyphs} (h : ¬ text.HasReference) :
    text.references = [] := by
  refine List.eq_nil_iff_forall_not_mem.2 fun name found => h ?_
  obtain ⟨piece, hp, hname⟩ := List.mem_filterMap.1 found
  cases piece with
  | literal => cases hname
  | reference =>
    cases hname
    have scanned : .reference name ∈ Piece.scan none text.list := hp
    obtain ⟨before, after, split⟩ := List.append_of_mem hp
    refine ⟨⟨before.flatMap Piece.source⟩, name, ⟨after.flatMap Piece.source⟩,
      Piece.isName_of_mem_scan (by simp) scanned, eq_of_list ?_⟩
    have source := Piece.flatMap_source_scan none text.list
    change (Piece.ofText text).flatMap Piece.source = text.list at source
    rw [← source, split]
    simp [list_append, referenceTo, Piece.source]

end Glyphs

/-- The text of a variable of the environment, empty where there is none. -/
def Surroundings.textOf (s : Surroundings) (name : Glyphs) : Glyphs :=
  match s.lookUp name with
  | .ok (some value) => value
  | _ => ""

/-- A text without a reference stays as it is. The first reference gives way to its value, which is
not looked at again, and what comes after it is treated like a text of its own. -/
structure IsSubstitution (value f : Glyphs → Glyphs) : Prop where
  plain : ∀ text : Glyphs, ¬ text.HasReference → f text = text
  reference : ∀ u name v : Glyphs, u.ClosesAtOnce → name.IsName →
    f (u ++ name.referenceTo ++ v) = u ++ value name ++ f v

/-- The names in the references of a text, in their order. -/
structure IsListing (f : Glyphs → List Glyphs) : Prop where
  plain : ∀ text : Glyphs, ¬ text.HasReference → f text = []
  reference : ∀ u name v : Glyphs, u.ClosesAtOnce → name.IsName →
    f (u ++ name.referenceTo ++ v) = name :: f v

theorem IsSubstitution.unique {value f g : Glyphs → Glyphs} (hf : IsSubstitution value f)
    (hg : IsSubstitution value g) : f = g := by
  funext text
  induction text using Glyphs.reference_induction with
  | plain text h => rw [hf.plain text h, hg.plain text h]
  | reference u name v closed hn ih =>
    rw [hf.reference u name v closed hn, hg.reference u name v closed hn, ih]

theorem IsListing.unique {f g : Glyphs → List Glyphs} (hf : IsListing f) (hg : IsListing g) :
    f = g := by
  funext text
  induction text using Glyphs.reference_induction with
  | plain text h => rw [hf.plain text h, hg.plain text h]
  | reference u name v closed hn ih =>
    rw [hf.reference u name v closed hn, hg.reference u name v closed hn, ih]

theorem isListing_references : IsListing Glyphs.references where
  plain _ h := Glyphs.references_of_not_hasReference h
  reference u name v closed hn := by
    unfold Glyphs.references
    rw [Glyphs.ofText_first closed hn, List.filterMap_append]
    have none : (Piece.literals u.list).filterMap Piece.name? = [] := by
      simp [Piece.literals, Piece.name?]
    rw [none]
    rfl

theorem isSubstitution_expandText (s : Surroundings) :
    IsSubstitution s.textOf (expandText s.lookUp) where
  plain _ h := expandText_of_plain s.lookUp (Glyphs.references_of_not_hasReference h)
  reference u name v closed hn := by
    apply Glyphs.eq_of_list
    unfold expandText
    rw [Glyphs.ofText_first closed hn, List.flatMap_append, List.flatMap_cons]
    have same : (Piece.literals u.list).flatMap (Piece.glyphs s.lookUp) = u.list := by
      simp [Piece.literals, Piece.glyphs, List.flatMap_map]
    have text : (Piece.reference name).glyphs s.lookUp = (s.textOf name).list := by
      unfold Piece.glyphs Surroundings.textOf
      dsimp only
      rcases s.lookUp name with cause | (_ | value) <;> rfl
    rw [same, text]
    simp [Glyphs.list_append]

/-! ### Trees -/

namespace Value

/-- The tree with its texts replaced: keys, lengths and everything that is no text are the same. -/
inductive TextsReplaced (f : Glyphs → Glyphs) : Value → Value → Prop
  | text (t : Glyphs) : TextsReplaced f (.ofGlyphs t) (.ofGlyphs (f t))
  | list {items replaced : List Value} (h : List.Forall₂ (TextsReplaced f) items replaced) :
    TextsReplaced f (.list items) (.list replaced)
  | map {entries replaced : List (Value × Value)}
    (keys : replaced.map Prod.fst = entries.map Prod.fst)
    (h : List.Forall₂ (TextsReplaced f) (entries.map Prod.snd) (replaced.map Prod.snd)) :
    TextsReplaced f (.map entries) (.map replaced)
  | leaf {v : Value} (h : v.IsLeaf) : TextsReplaced f v v

theorem textsReplaced_expand (lookup : Lookup) (v : Value) :
    v.TextsReplaced (expandText lookup) (v.expand lookup) := by
  induction v using tree_induction with
  | text t =>
    rw [expand_ofGlyphs]
    exact .text t
  | list items ih =>
    rw [expand, expandItems_eq_map]
    exact .list (List.forall₂_map_right_iff.2 (List.forall₂_same.2 ih))
  | map entries ih =>
    rw [expand, expandEntries_eq_map]
    refine .map (by simp) ?_
    rw [List.map_map, List.forall₂_map_left_iff, List.forall₂_map_right_iff]
    exact List.forall₂_same.2 ih
  | leaf v hv =>
    rw [expand_of_isLeaf hv]
    exact .leaf hv

end Value

theorem obstaclesIn_eq (lookup : Lookup) (text : Glyphs) :
    obstaclesIn lookup text =
      text.references.filterMap fun name => (Piece.reference name).obstacle? lookup := by
  unfold obstaclesIn Glyphs.references
  rw [List.filterMap_filterMap]
  refine List.filterMap_congr fun piece _ => ?_
  cases piece <;> rfl

theorem Value.obstacles_eq (lookup : Lookup) {v : Value} (tree : v.isEndless = false) :
    v.obstacles lookup =
      v.references.filterMap fun name => (Piece.reference name).obstacle? lookup := by
  induction v using tree_induction with
  | text t => rw [obstacles_ofGlyphs, references_ofGlyphs, obstaclesIn_eq]
  | list items ih =>
    rw [isEndless, anyEndless_eq_any, List.any_eq_false] at tree
    rw [obstacles, references, obstaclesInItems_eq_flatMap, referencesInItems_eq_flatMap,
      List.filterMap_flatMap]
    exact List.flatMap_congr fun item hi => ih item hi (Bool.not_eq_true _ ▸ tree item hi)
  | map entries ih =>
    rw [isEndless, anyEntryEndless_eq_any, List.any_eq_false] at tree
    rw [obstacles, references, obstaclesInEntries_eq_flatMap, referencesInEntries_eq_flatMap,
      List.filterMap_flatMap]
    exact List.flatMap_congr fun entry he => ih entry he (Bool.not_eq_true _ ▸ tree entry he)
  | leaf v hv =>
    rw [references_of_isLeaf hv]
    cases v with
    | enclosing => cases tree
    | text | broken | list | map => exact hv.elim
    | null | bool | int | float | bytes | moment | tuple | set => rfl

/-! ### Names that cannot be looked up -/

theorem Glyphs.bytes?_ofString (string : String) :
    (Glyphs.ofString string).bytes? = some (string.toList.flatMap String.utf8EncodeChar) := by
  unfold bytes? ofString ofChars
  rw [List.flatMap_def]
  induction string.toList with
  | nil => rfl
  | cons c cs ih =>
    obtain ⟨encoded, same, flat⟩ := Option.map_eq_some_iff.1 ih
    rw [List.map_cons, List.mapM_cons, same, List.map_cons, List.flatten_cons, ← flat]
    rfl

namespace Surroundings

def isSet (s : Surroundings) (name : Glyphs) : Bool :=
  match s.lookUp name with
  | .ok (some _) => true
  | _ => false

theorem lookUp_cases (s : Surroundings) (name : Glyphs) :
    (name.bytes?.isSome = true ∧ ∃ value, s.lookUp name = .ok value) ∨
      name.bytes?.isSome = false ∧ s.lookUp name = .error (.defect .halfCharacter) := by
  unfold lookUp
  cases whole : name.string? with
  | some string =>
    refine .inl ⟨?_, _, rfl⟩
    rw [Glyphs.eq_ofString_of_string? whole, Glyphs.bytes?_ofString]
    rfl
  | none =>
    cases name.bytes? with
    | some bytes => exact .inl ⟨rfl, _, rfl⟩
    | none => exact .inr ⟨rfl, rfl⟩

variable {s : Surroundings} {name : Glyphs}

theorem isSome_bytes?_of_isSet (h : s.isSet name = true) : name.bytes?.isSome = true := by
  rcases s.lookUp_cases name with ⟨bytes, -⟩ | ⟨-, failed⟩
  · exact bytes
  · rw [isSet, failed] at h
    cases h

/-- What a variable that is not set makes of strict expansion. -/
def refusal (name : Glyphs) : Failure :=
  if name.bytes?.isSome then .configuration (.variableUnset name) else .defect .halfCharacter

theorem obstacle?_eq (s : Surroundings) (name : Glyphs) :
    (Piece.reference name).obstacle? s.lookUp =
      if s.isSet name then none
      else if name.bytes?.isSome then some (.unknown name)
      else some (.unreadable (.defect .halfCharacter)) := by
  unfold Piece.obstacle? isSet
  dsimp only
  rcases s.lookUp_cases name with ⟨bytes, _ | value, found⟩ | ⟨bytes, failed⟩
  · rw [found, bytes]
    rfl
  · rw [found]
    rfl
  · rw [failed, bytes]
    rfl

end Surroundings

namespace Config

/-- Replaces the references of a tree. Strictly, the first unknown variable is an error. -/
def expandTree (s : Surroundings) (mode : Mode) (v : Value) : Report LogEntry Value := do
  (v.obstacles s.lookUp).forM (pass mode)
  return v.expand s.lookUp

section
variable {s : Surroundings} {v : Value}

theorem outcome_expandTree_map (s : Surroundings) (mode : Mode) (options : Options) :
    (expandTree s mode (.map options)).outcome =
      (expandOptions s mode options).outcome.map Value.map := by
  unfold expandTree expandOptions
  simp only [Report.outcome_bind, Report.outcome_pure, Value.obstacles, Value.expand]
  cases ((Value.obstaclesInEntries s.lookUp options).forM (pass mode)).outcome <;> rfl

theorem outcome_expandTree (s : Surroundings) (mode : Mode) (tree : v.isEndless = false) :
    (expandTree s mode v).outcome =
      ((v.references.filterMap fun name => (Piece.reference name).obstacle? s.lookUp).forM
        (pass mode)).outcome.map fun _ => v.expand s.lookUp := by
  unfold expandTree
  rw [Value.obstacles_eq s.lookUp tree, Report.outcome_bind]
  rfl

theorem outcome_pass_permissive (s : Surroundings) (names : List Glyphs) :
    ((names.filterMap fun name => (Piece.reference name).obstacle? s.lookUp).forM
      (pass .permissive)).outcome =
      if names.all fun name => name.bytes?.isSome then .ok ()
      else .error (.defect .halfCharacter) := by
  induction names with
  | nil => rfl
  | cons name names ih =>
    rw [List.filterMap_cons, List.all_cons, s.obstacle?_eq]
    by_cases set : s.isSet name = true
    · rw [if_pos set, s.isSome_bytes?_of_isSet set, Bool.true_and]
      exact ih
    · rw [if_neg set]
      cases bytes : name.bytes?.isSome with
      | true => exact (Report.outcome_forM_cons _ _ _).trans ih
      | false => exact Report.outcome_forM_cons _ _ _

theorem outcome_pass_strict (s : Surroundings) (names : List Glyphs) :
    ((names.filterMap fun name => (Piece.reference name).obstacle? s.lookUp).forM
      (pass .strict)).outcome =
      match names.find? fun name => !s.isSet name with
      | some name => .error (Surroundings.refusal name)
      | none => .ok () := by
  induction names with
  | nil => rfl
  | cons name names ih =>
    rw [List.filterMap_cons, List.find?_cons, s.obstacle?_eq]
    cases set : s.isSet name with
    | true => exact ih
    | false =>
      change _ = Except.error (Surroundings.refusal name)
      unfold Surroundings.refusal
      cases bytes : name.bytes?.isSome <;> exact Report.outcome_forM_cons _ _ _

theorem outcome_permissive (tree : v.isEndless = false)
    (bytes : ∀ name ∈ v.references, name.bytes?.isSome = true) :
    (expandTree s .permissive v).outcome = .ok (v.expand s.lookUp) := by
  rw [outcome_expandTree s .permissive tree, outcome_pass_permissive,
    if_pos (List.all_eq_true.2 bytes)]
  rfl

theorem outcome_permissive_of_none (tree : v.isEndless = false) {name : Glyphs}
    (found : name ∈ v.references) (bytes : name.bytes?.isSome = false) :
    (expandTree s .permissive v).outcome = .error (.defect .halfCharacter) := by
  rw [outcome_expandTree s .permissive tree, outcome_pass_permissive, if_neg]
  · rfl
  · intro all
    rw [List.all_eq_true.1 all name found] at bytes
    cases bytes

theorem outcome_strict_of_unset (tree : v.isEndless = false) {name : Glyphs}
    (first : v.references.find? (fun name => !s.isSet name) = some name) :
    (expandTree s .strict v).outcome = .error (Surroundings.refusal name) := by
  rw [outcome_expandTree s .strict tree, outcome_pass_strict, first]
  rfl

theorem outcome_strict_of_set (tree : v.isEndless = false)
    (set : v.references.find? (fun name => !s.isSet name) = none) :
    (expandTree s .strict v).outcome = .ok (v.expand s.lookUp) := by
  rw [outcome_expandTree s .strict tree, outcome_pass_strict, set]
  rfl

end

/-- What is promised of replacing the references of a tree. -/
structure Expands (s : Surroundings) (v : Value) : Prop where
  permissive : ∀ f, IsSubstitution s.textOf f → ∃ w,
    (expandTree s .permissive v).outcome = .ok w ∧ v.TextsReplaced f w
  strict : (expandTree s .strict v).outcome =
    match v.references.find? fun name => !s.isSet name with
    | some name => .error (.configuration (.variableUnset name))
    | none => (expandTree s .permissive v).outcome

section
variable {s : Surroundings} {v : Value}

theorem expands_of_bytes (tree : v.isEndless = false)
    (bytes : ∀ name ∈ v.references, name.bytes?.isSome = true) : Expands s v where
  permissive f hf := by
    refine ⟨v.expand s.lookUp, outcome_permissive tree bytes, ?_⟩
    rw [hf.unique (isSubstitution_expandText s)]
    exact v.textsReplaced_expand s.lookUp
  strict := by
    cases first : v.references.find? fun name => !s.isSet name with
    | some name =>
      rw [outcome_strict_of_unset tree first, Surroundings.refusal,
        if_pos (bytes name (List.mem_of_find?_eq_some first))]
    | none => rw [outcome_strict_of_set tree first, outcome_permissive tree bytes]

theorem Expands.bytes (h : Expands s v) (tree : v.isEndless = false) :
    ∀ name ∈ v.references, name.bytes?.isSome = true := by
  intro name found
  obtain ⟨w, whole, -⟩ := h.permissive _ (isSubstitution_expandText s)
  cases bytes : name.bytes?.isSome with
  | true => rfl
  | false =>
    rw [outcome_permissive_of_none tree found bytes] at whole
    cases whole

end

/-- A tree is expanded as promised if every name in its references can be looked up. There is one
way of replacing references, and one of listing them. Where a name cannot be looked up, the
expansion breaks off: permissively in any case, and strictly unless an unset variable before it is
the error. -/
theorem expands_iff (s : Surroundings) {v : Value} (tree : v.isEndless = false) :
    (∃! f, IsSubstitution s.textOf f) ∧
    (∀ f, IsListing f ↔ f = Glyphs.references) ∧
    (∀ options, v = .map options → ∀ mode,
      (expandOptions s mode options).outcome.map .map = (expandTree s mode v).outcome) ∧
    (Expands s v ↔ ∀ name ∈ v.references, name.bytes?.isSome = true) ∧
    ((∃ name ∈ v.references, name.bytes?.isSome = false) →
      (expandTree s .permissive v).outcome = .error (.defect .halfCharacter) ∧
      ∃ name, v.references.find? (fun name => !s.isSet name) = some name ∧
        (expandTree s .strict v).outcome =
          .error (if name.bytes?.isSome then .configuration (.variableUnset name)
            else .defect .halfCharacter)) := by
  refine ⟨⟨_, isSubstitution_expandText s, fun f hf => hf.unique (isSubstitution_expandText s)⟩,
    fun f => ⟨fun hf => hf.unique isListing_references, ?_⟩, ?_,
    ⟨fun expands => expands.bytes tree, expands_of_bytes tree⟩, ?_⟩
  · rintro rfl
    exact isListing_references
  · rintro options rfl mode
    exact (outcome_expandTree_map s mode options).symm
  · rintro ⟨name, found, bytes⟩
    refine ⟨outcome_permissive_of_none tree found bytes, ?_⟩
    cases first : v.references.find? fun name => !s.isSet name with
    | some other => exact ⟨other, rfl, outcome_strict_of_unset tree first⟩
    | none =>
      have set := List.find?_eq_none.1 first name found
      rw [Bool.not_eq_true, Bool.not_eq_false'] at set
      rw [s.isSome_bytes?_of_isSet set] at bytes
      cases bytes

namespace Sample

/-- References that are set, that are not, that are left open, and that are no references. -/
def nested : Value :=
  .map [(.text "$\x7bA\x7d",
    .list [.text "$\x7bPROJECT\x7d-$\x7b", .int 3, .text "$$\x7bA\x7d$\x7b\x7d$\x7bPROJECT"])]

end Sample

/-- A tree with one variable that is set and one that is not. -/
theorem expands_sample :
    Expands Sample.surroundings Sample.nested ∧
    (expandTree Sample.surroundings .permissive Sample.nested).outcome =
      .ok (.map [(.text "$\x7bA\x7d", .list [.text "shop-$\x7b", .int 3, .text "$$\x7b\x7d$\x7bPROJECT"])]) ∧
    (expandTree Sample.surroundings .strict Sample.nested).outcome =
      .error (.configuration (.variableUnset "A")) :=
  ⟨(expands_iff Sample.surroundings (v := Sample.nested) rfl).2.2.2.1.2 (by decide), rfl, rfl⟩

/-- A name that is half a character cannot be looked up, although there is no variable of it. -/
theorem not_expands_half :
    (Value.ofGlyphs (Glyphs.referenceTo ⟨[.half 0xD800]⟩)).isEndless = false ∧
    ¬ Expands Sample.surroundings (.ofGlyphs (Glyphs.referenceTo ⟨[.half 0xD800]⟩)) := by
  refine ⟨rfl, fun expands => ?_⟩
  obtain ⟨w, whole, -⟩ := expands.permissive _ (isSubstitution_expandText _)
  cases whole

end Config

end CloudTelemetry
