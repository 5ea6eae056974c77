import CloudTelemetry.Binary64
import CloudTelemetry.Calendar
import CloudTelemetry.Text.Glyphs

/-!
# Values

`Value`: what attributes, measurements and options hold. Two values may be one key of a mapping
although they are built differently (`true`, one and 1.0); `Value.sameKey` says when, and
`Value.mapping` builds a mapping of which no two keys are the same.
-/

namespace CloudTelemetry

structure BrokenText where
  glyphs : Glyphs
  isBroken : glyphs.string? = none
deriving DecidableEq, Repr

inductive Enclosure where
  | list
  | tuple
  | map
deriving DecidableEq, Repr

inductive Value where
  | null
  | bool (b : Bool)
  | int (n : Int)
  | float (x : Binary64)
  | text (s : String)
  | broken (t : BrokenText)
  | bytes (b : List UInt8)
  | moment (m : Moment)
  | list (items : List Value)
  | tuple (items : List Value)
  | set (items : List Value)
  | map (entries : List (Value × Value))
  /-- a collection that this value is part of, so that it never ends -/
  | enclosing (kind : Enclosure)
deriving Inhabited, Repr

namespace Value

/-- The value of a text of which it is not known whether its characters are whole. -/
def ofGlyphs (t : Glyphs) : Value :=
  match h : t.string? with
  | some s => .text s
  | none => .broken ⟨t, h⟩

@[simp] theorem ofGlyphs_ofString (s : String) : ofGlyphs (.ofString s) = .text s := by
  unfold ofGlyphs
  split
  · rename_i h
    rw [Glyphs.string?_ofString] at h
    rw [Option.some.inj h]
  · rename_i h
    rw [Glyphs.string?_ofString] at h
    cases h

@[simp] theorem ofGlyphs_broken (t : BrokenText) : ofGlyphs t.glyphs = .broken t := by
  unfold ofGlyphs
  split
  · rename_i h
    rw [t.isBroken] at h
    cases h
  · rfl

theorem ofGlyphs_cases (t : Glyphs) :
    (∃ s, t = .ofString s ∧ ofGlyphs t = .text s) ∨
      ∃ b : BrokenText, t = b.glyphs ∧ ofGlyphs t = .broken b := by
  cases h : t.string? with
  | none => exact .inr ⟨⟨t, h⟩, rfl, ofGlyphs_broken ⟨t, h⟩⟩
  | some s =>
    obtain rfl := Glyphs.eq_ofString_of_string? h
    exact .inl ⟨s, rfl, ofGlyphs_ofString s⟩

def isBroken : Value → Bool
  | .broken _ => true
  | _ => false

/-- Whether the value counts as present: zero, nothing and the empty do not. -/
def isPresent : Value → Bool
  | .null => false
  | .bool b => b
  | .int n => n != 0
  | .float x => !x.isZero
  | .text s => s != ""
  | .broken _ => true
  | .bytes b => !b.isEmpty
  | .moment _ => true
  | .list items => !items.isEmpty
  | .tuple items => !items.isEmpty
  | .set items => !items.isEmpty
  | .map entries => !entries.isEmpty
  | .enclosing _ => true

def orElse (a b : Value) : Value := if a.isPresent then a else b

/-- Where a number lies; truth values count as zero and one. -/
def place? : Value → Option Place
  | .bool b => some (.ratio (if b then 1 else 0) 1)
  | .int n => some (.ratio n 1)
  | .float x => some x.place
  | _ => none

/-! ### Endless values -/

mutual

/-- Whether the value has itself among its parts, so that it never ends. -/
def isEndless : Value → Bool
  | .list items => anyEndless items
  | .tuple items => anyEndless items
  | .map entries => anyEntryEndless entries
  | .enclosing _ => true
  | _ => false

def anyEndless : List Value → Bool
  | [] => false
  | v :: rest => isEndless v || anyEndless rest

def anyEntryEndless : List (Value × Value) → Bool
  | [] => false
  | (_, v) :: rest => isEndless v || anyEntryEndless rest

end

/-! ### Keys -/

mutual

/-- Whether the value may be a key: none of a list, a set and a mapping, nor a tuple that holds
one. -/
def mayBeKey : Value → Bool
  | .list _ => false
  | .set _ => false
  | .map _ => false
  | .enclosing _ => false
  | .tuple items => allMayBeKeys items
  | _ => true

def allMayBeKeys : List Value → Bool
  | [] => true
  | v :: rest => mayBeKey v && allMayBeKeys rest

end

mutual

/-- Whether two values that may be keys are one key: numbers by their place, moments by their
instant, tuples by their items. -/
def sameKey : Value → Value → Bool
  | .null, .null => true
  | .text s, .text t => s == t
  | .broken s, .broken t => s == t
  | .bytes a, .bytes b => a == b
  | .moment a, .moment b => a.same b
  | .tuple xs, .tuple ys => sameKeys xs ys
  | a, b =>
    match a.place?, b.place? with
    | some p, some q => p.same q
    | _, _ => false

def sameKeys : List Value → List Value → Bool
  | [], [] => true
  | a :: as, b :: bs => sameKey a b && sameKeys as bs
  | _, _ => false

end

/-- Writes one entry: in place where the key is present, else at the end. -/
def putEntryBy {α β : Type} (same : α → α → Bool) (key : α) (value : β) :
    List (α × β) → List (α × β)
  | [] => [(key, value)]
  | (k, v) :: rest =>
    if same k key then (k, value) :: rest else (k, v) :: putEntryBy same key value rest

/-- Entries that come one after another, one for each key; the first spelling of a key stays. -/
def distinctEntriesBy {α β : Type} (same : α → α → Bool) (entries : List (α × β)) :
    List (α × β) :=
  entries.foldl (fun done entry => putEntryBy same entry.1 entry.2 done) []

def mapping (entries : List (Value × Value)) : Value := .map (distinctEntriesBy sameKey entries)

def entry? (entries : List (Value × Value)) (name : String) : Option Value :=
  match entries with
  | [] => none
  | (.text k, v) :: rest => if k = name then some v else entry? rest name
  | _ :: rest => entry? rest name

end Value

end CloudTelemetry
