import CloudTelemetry.Config.Loading
import CloudTelemetry.FileTree
import CloudTelemetry.Proofs.Config.Modes
import CloudTelemetry.Proofs.Config.Options
import CloudTelemetry.Proofs.Yaml.Unfolding
import CloudTelemetry.Yaml.Document

/-!
# What is loaded from a file

A file is to hold a mapping, or nothing. Its entries are then read like any others
(`Document.exists_rootEntries`), and a file that is not there or cannot be parsed is an error of
configuration. `loadsMappings_iff` says where this fails, whatever the files and the parser are: at
a file that may not be looked at or holds no text, at a fault of the parser that is no error of
syntax, and at a document that is no mapping but counts as absent.
-/

namespace CloudTelemetry

theorem Yaml.Atom.value_ne_map (atom : Atom) (entries : List (Value × Value)) :
    atom.value ≠ .map entries := by
  cases atom with
  | text t =>
    rcases Value.ofGlyphs_cases t with ⟨s, -, same⟩ | ⟨b, -, same⟩ <;> rw [value, same] <;> nofun
  | _ => nofun

namespace Yaml.Document
open Data

variable {document : Document} {early : List String} {id : NodeId} {n : Nat}

theorem valueAt_of_settles (sight : Sight) (h : document.data.Settles n id)
    (enough : n ≤ 2 * document.data.size + 2) :
    document.valueAt sight id = document.data.plain n id :=
  unfold_of_settles h enough nofun

theorem value_of_root (root : document.root = some id) :
    document.value = document.valueAt .copied id := by
  unfold value
  rw [root]
  rfl

theorem sectionAt_of_settles (h : document.data.Settles (n + 1) id)
    (enough : n + 1 ≤ 2 * document.data.size + 2) :
    document.sectionAt id = document.data.plain (n + 1) id := by
  unfold sectionAt
  split
  · rename_i entries found
    rw [plain, found]
    refine congrArg Value.map (List.map_congr_left fun entry he => ?_)
    have settles : document.data.Settles n entry.2 :=
      h entry.2 (by rw [parts, found]; exact List.mem_map_of_mem he)
    exact congrArg (entry.1.value, ·) (valueAt_of_settles .direct settles (by omega))
  · exact valueAt_of_settles .copied h enough

def entryAt (document : Document) (early : List String) (entry : Key × NodeId) : Value × Value :=
  match entry.1.value with
  | .text name =>
    (entry.1.value,
      if early.contains name then document.sectionAt entry.2 else document.valueAt .copied entry.2)
  | _ => (entry.1.value, document.valueAt .copied entry.2)

theorem rootEntries_of_map {entries : List (Key × NodeId)} (root : document.root = some id)
    (found : document.data.getD id none = some (.map entries)) :
    document.rootEntries? early = some (entries.map (document.entryAt early)) := by
  unfold rootEntries?
  rw [root, Option.bind_eq_bind, Option.bind_some, found]
  rfl

theorem value_of_map {entries : List (Key × NodeId)} (root : document.root = some id)
    (found : document.data.getD id none = some (.map entries)) :
    document.value = .map (entries.map fun entry => (entry.1.value,
      document.data.unfold (2 * document.data.size + 1) .copied [(id, 0)] entry.2)) := by
  rw [value_of_root root, valueAt, unfold_map found, if_neg (by simp)]

theorem rootEntries_eq_none
    (other : ∀ id entries, document.root = some id →
      document.data.getD id none ≠ some (.map entries)) :
    document.rootEntries? early = none := by
  unfold rootEntries?
  cases root : document.root with
  | none => rfl
  | some id =>
    rw [Option.bind_eq_bind, Option.bind_some]
    split
    · rename_i entries found
      exact (other id entries root found).elim
    · rfl

theorem value_ne_map
    (other : ∀ id entries, document.root = some id →
      document.data.getD id none ≠ some (.map entries)) (entries : List (Value × Value)) :
    document.value ≠ .map entries := by
  cases root : document.root with
  | none =>
    rw [value, root]
    intro same
    cases same
  | some id =>
    rw [value_of_root root, valueAt]
    cases found : document.data.getD id none with
    | none =>
      rw [unfold, found]
      intro same
      cases same
    | some datum =>
      cases datum with
      | map entries => exact (other id entries root found).elim
      | scalar key =>
        rw [unfold, found]
        exact key.atom.value_ne_map entries
      | list =>
        rw [unfold_list found, if_neg (by simp)]
        intro same
        cases same
      | pairs =>
        rw [unfold_pairs found, if_neg (by simp)]
        intro same
        cases same
      | set =>
        rw [unfold, found]
        intro same
        cases same

theorem root_cases (document : Document) :
    (∃ id entries, document.root = some id ∧
        document.data.getD id none = some (.map entries)) ∨
      (∀ early, document.rootEntries? early = none) ∧ ∀ entries, document.value ≠ .map entries := by
  by_cases mapping : ∃ id entries, document.root = some id ∧
      document.data.getD id none = some (.map entries)
  · exact .inl mapping
  · have other : ∀ id entries, document.root = some id →
        document.data.getD id none ≠ some (.map entries) :=
      fun id entries root found => mapping ⟨id, entries, root, found⟩
    exact .inr ⟨fun _ => rootEntries_eq_none other, value_ne_map other⟩

theorem entryAt_of_settles {entry : Key × NodeId}
    (h : document.data.Settles (2 * document.data.size + 1) entry.2) :
    document.entryAt early entry =
      (entry.1.value, document.data.plain (2 * document.data.size + 1) entry.2) := by
  have copied := valueAt_of_settles .copied h (by omega)
  have early' := sectionAt_of_settles h (by omega)
  unfold entryAt
  split
  · rw [copied, early', ite_self]
  · rw [copied]

/-- A document whose value is a mapping has its entries at the root, and if it comes to an end they
are read as they are. -/
theorem exists_rootEntries {entries : List (Value × Value)}
    (h : document.value = .map entries) (early : List String) :
    ∃ options, document.rootEntries? early = some options ∧
      options.map Prod.fst = entries.map Prod.fst ∧
      (document.value.isEndless = false → options = entries) := by
  obtain ⟨id, items, root, found⟩ | ⟨-, other⟩ := document.root_cases
  · rw [value_of_map root found] at h
    obtain rfl := Value.map.inj h
    refine ⟨_, rootEntries_of_map root found, ?_, fun tree => ?_⟩
    · rw [List.map_map, List.map_map]
      refine List.map_congr_left fun entry _ => ?_
      unfold entryAt
      dsimp only [Function.comp_apply]
      split <;> rfl
    · have enough : document.data.need .copied [] ≤ 2 * document.data.size + 2 := by
        have most := document.data.free_le []
        rw [need]
        omega
      rw [value_of_root root] at tree
      have settles := settles_of_unfold tree enough
      have below : ∀ entry ∈ items, document.data.Settles (2 * document.data.size + 1) entry.2 :=
        fun entry he => settles entry.2 (by rw [parts, found]; exact List.mem_map_of_mem he)
      have whole := valueAt_of_settles .copied settles (Nat.le_refl _)
      rw [← value_of_root root, value_of_map root found, plain, found] at whole
      rw [Value.map.inj whole]
      exact List.map_congr_left fun entry he => entryAt_of_settles (below entry he)
  · exact absurd h (other entries)

end Yaml.Document

theorem Surroundings.meetsDefects_file? (s : Surroundings) (path : Path) :
    MeetsDefects (s.file? path) := by
  refine (meetsDefects_raise _).bind fun isFile => ?_
  cases isFile with
  | false => exact .ok none
  | true => exact (meetsDefects_raise _).bind fun text => .ok (some text)

namespace Config
open Yaml

/-- What is promised of loading a configuration from a file. -/
structure LoadsMappings (s : Surroundings) (path : Path) (forced : Option Mode) : Prop where
  missing : (∀ text, s.file? path ≠ .ok (some text)) →
    ∃ cause, (load s path forced).outcome = .error (.configuration cause)
  rejected : ∀ text fault, s.file? path = .ok (some text) → s.parser text = .error fault →
    ∃ cause, (load s path forced).outcome = .error (.configuration cause)
  refused : ∀ text document, s.file? path = .ok (some text) → s.parser text = .ok document →
    document.value ≠ .null → (∀ entries, document.value ≠ .map entries) →
    ∃ cause, (load s path forced).outcome = .error (.configuration cause)
  empty : ∀ text document, s.file? path = .ok (some text) → s.parser text = .ok document →
    document.value = .null → load s path forced = ofEntries s (some path.parent) forced []
  mapping : ∀ text document entries, s.file? path = .ok (some text) →
    s.parser text = .ok document → document.value = .map entries →
    ∃ options, document.rootEntries? ["validation"] = some options ∧
      options.map Prod.fst = entries.map Prod.fst ∧
      (document.value.isEndless = false → options = entries) ∧
      load s path forced = ofEntries s (some path.parent) forced options

section
variable {s : Surroundings} {path : Path} {forced : Option Mode} {text : String}
  {document : Document}

theorem load_of_error {cause : Failure} (h : s.file? path = .error cause) :
    load s path forced = .fail cause := by
  rw [load, h]

theorem load_of_missing (h : s.file? path = .ok none) :
    load s path forced = .fail (.configuration (.fileMissing path.text)) := by
  rw [load, h]

theorem load_of_fault (h : s.file? path = .ok (some text)) {fault : Fault}
    (rejected : s.parser text = .error fault) :
    load s path forced = .fail (unreadable path fault) := by
  rw [load, h]
  dsimp only
  rw [rejected]

theorem load_of_entries (h : s.file? path = .ok (some text))
    (read : s.parser text = .ok document) {options : Options}
    (root : document.rootEntries? ["validation"] = some options) :
    load s path forced = ofEntries s (some path.parent) forced options := by
  rw [load, h]
  dsimp only
  rw [read]
  dsimp only
  rw [optionsOf?, root]

theorem load_of_other (h : s.file? path = .ok (some text))
    (read : s.parser text = .ok document)
    (other : ∀ entries, document.value ≠ .map entries) :
    load s path forced =
      if document.value.isPresent then .fail (.configuration (.notMapping path.text))
      else ofEntries s (some path.parent) forced [] := by
  have none : document.rootEntries? ["validation"] = none := by
    obtain ⟨id, entries, root, found⟩ | ⟨none, -⟩ := document.root_cases
    · exact (other _ (Document.value_of_map root found)).elim
    · exact none _
  rw [load, h]
  dsimp only
  rw [read]
  dsimp only
  rw [optionsOf?, none]
  dsimp only
  cases document.value.isPresent <;> rfl

/-- Without any options there is no name of a service, which only a strict reading refuses. -/
theorem outcome_of_nothing (s : Surroundings) (directory : Path) (forced : Option Mode) :
    ∃ config, (ofEntries s (some directory) forced []).outcome =
      if forced = some .strict then .error (.configuration (.problems [.noServiceName]))
      else .ok config := by
  match forced with
  | none | some .permissive => exact ⟨_, by with_unfolding_all rfl⟩
  | some .strict => exact ⟨{ serviceName := .null }, by with_unfolding_all rfl⟩

theorem refused_nothing_iff {directory : Path} :
    (∃ cause, (ofEntries s (some directory) forced []).outcome = .error (.configuration cause)) ↔
      forced = some .strict := by
  obtain ⟨config, outcome⟩ := outcome_of_nothing s directory forced
  rw [outcome]
  split
  · exact iff_of_true ⟨_, rfl⟩ ‹_›
  · exact iff_of_false nofun ‹_›

end

section
variable {s : Surroundings} {path : Path} {forced : Option Mode}

/-- A document that counts as absent is read like a mapping without entries. -/
theorem load_of_absent {text : String} {document : Document}
    (file : s.file? path = .ok (some text)) (read : s.parser text = .ok document)
    (absent : document.value.isPresent = false) (other : ∀ entries, document.value ≠ .map entries) :
    load s path forced = ofEntries s (some path.parent) forced [] := by
  rw [load_of_other file read other, absent]
  rfl

/-- The file can be looked at, the parser does its part, and only null is absent. -/
structure Loadable (s : Surroundings) (path : Path) (forced : Option Mode) : Prop where
  looked : ∀ cause, s.file? path ≠ .error cause
  parsed : ∀ text cause, s.file? path = .ok (some text) →
    s.parser text ≠ .error (.defect cause)
  present : ∀ text document, s.file? path = .ok (some text) → s.parser text = .ok document →
    document.value.isPresent = false →
    document.value = .null ∨ (∃ entries, document.value = .map entries) ∨ forced = some .strict

theorem LoadsMappings.loadable (loads : LoadsMappings s path forced) :
    Loadable s path forced where
  looked cause failed := by
    obtain ⟨other, outcome⟩ := loads.missing fun text file => by
      rw [file] at failed
      cases failed
    rw [load_of_error failed] at outcome
    obtain ⟨d, rfl⟩ := s.meetsDefects_file? path cause failed
    cases outcome
  parsed text cause file broken := by
    obtain ⟨other, outcome⟩ := loads.rejected text _ file broken
    rw [load_of_fault file broken] at outcome
    cases outcome
  present text document file read absent := by
    by_contra wrong
    obtain ⟨null, wrong⟩ := not_or.1 wrong
    obtain ⟨mapping, lenient⟩ := not_or.1 wrong
    have other : ∀ entries, document.value ≠ .map entries :=
      fun entries same => mapping ⟨entries, same⟩
    have refused := loads.refused text document file read null other
    rw [load_of_absent file read absent other] at refused
    exact lenient (refused_nothing_iff.1 refused)

theorem Loadable.loadsMappings (loadable : Loadable s path forced) :
    LoadsMappings s path forced where
  missing none := by
    cases file : s.file? path with
    | error cause => exact (loadable.looked cause file).elim
    | ok text? =>
      cases text? with
      | none => exact ⟨_, congrArg Report.outcome (load_of_missing file)⟩
      | some text => exact (none text file).elim
  rejected text fault file broken := by
    cases fault with
    | malformed => exact ⟨_, congrArg Report.outcome (load_of_fault file broken)⟩
    | defect cause => exact (loadable.parsed text cause file broken).elim
  refused text document file read null other := by
    cases present : document.value.isPresent with
    | true =>
      rw [load_of_other file read other, if_pos present]
      exact ⟨_, rfl⟩
    | false =>
      rw [load_of_absent file read present other]
      rcases loadable.present text document file read present with same | ⟨entries, same⟩ | strict
      · exact (null same).elim
      · exact (other entries same).elim
      · exact refused_nothing_iff.2 strict
  empty text document file read null := by
    refine load_of_absent file read ?_ ?_
    · rw [null]
      rfl
    · rw [null]
      exact nofun
  mapping text document entries file read same := by
    obtain ⟨options, root, keys, tree⟩ := document.exists_rootEntries same ["validation"]
    exact ⟨options, root, keys, tree, load_of_entries file read root⟩

end

/-- Whatever the files and the parser are, loading keeps its promise but for three things: a file that
may not be looked at or holds no text, a fault of the parser that is no error of syntax, and a
document that is no mapping and counts as absent, which is read like a mapping without entries and
so refused in a strict reading only. -/
theorem loadsMappings_iff (s : Surroundings) (path : Path) (forced : Option Mode) :
    (LoadsMappings s path forced ↔ Loadable s path forced) ∧
    ∀ text document, s.file? path = .ok (some text) → s.parser text = .ok document →
      document.value.isPresent = false → (∀ entries, document.value ≠ .map entries) →
      load s path forced = ofEntries s (some path.parent) forced [] :=
  ⟨⟨LoadsMappings.loadable, Loadable.loadsMappings⟩, fun _ _ => load_of_absent⟩

namespace Sample

def listed : Surroundings where
  environment := .empty
  files := (FileTree.mk [([fileName "c.yaml"], "[]\n")] [] []).system
  parser := Document.read

def emptyList : Document := ⟨#[some (.list [])], some 0⟩

end Sample

/-- A list is no mapping, and yet a configuration is read from an empty one. -/
theorem not_loadsMappings_list : ¬ LoadsMappings Sample.listed (.ofText "c.yaml") none := by
  intro loads
  have file : Sample.listed.file? (.ofText "c.yaml") = .ok (some "[]\n") := by
    with_unfolding_all rfl
  have read : Sample.listed.parser "[]\n" = .ok Sample.emptyList := by with_unfolding_all rfl
  have value : Sample.emptyList.value = .list [] := rfl
  have other : ∀ entries, Sample.emptyList.value ≠ .map entries := by
    rw [value]
    exact nofun
  have refused := loads.refused _ Sample.emptyList file read (by rw [value]; exact nofun) other
  rw [load_of_absent file read (by rw [value]; rfl) other] at refused
  exact absurd (refused_nothing_iff.1 refused) nofun

end Config

end CloudTelemetry
