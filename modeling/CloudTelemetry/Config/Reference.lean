import CloudTelemetry.Failure

/-!
# References to variables

A text of a configuration may refer to variables of the environment, as `$` and a name in braces.
`Piece.ofText` takes a text apart in one pass from the left; what is put in the place of a
reference is not looked at again. A name is not empty and holds no closing brace; what is no
reference stays as it is. `Value.obstacles` lists, in the order in which they are met, what stands
in the way of replacing all references of a value.
-/

namespace CloudTelemetry

inductive Piece where
  | literal (c : Glyph)
  | reference (name : Glyphs)
deriving DecidableEq, Repr

abbrev Lookup := Glyphs → Except Failure (Option String)

/-- What stands in the way of replacing references. -/
inductive Obstacle where
  | unknown (name : Glyphs)
  | unreadable (cause : Failure)
  /-- a collection that never ends -/
  | endless

namespace Piece

def literals (cs : List Glyph) : List Piece := cs.map .literal

/-- The pieces of a text. Where a reference is open, `name?` holds the name so far, its last
character first. -/
def scan : Option (List Glyph) → List Glyph → List Piece
  | none, [] => []
  | none, .whole '$' :: .whole '{' :: rest => scan (some []) rest
  | none, c :: rest => .literal c :: scan none rest
  | some name, [] => literals (.whole '$' :: .whole '{' :: name.reverse)
  | some [], .whole '}' :: rest =>
    literals [.whole '$', .whole '{', .whole '}'] ++ scan none rest
  | some name, .whole '}' :: rest => .reference ⟨name.reverse⟩ :: scan none rest
  | some name, c :: rest => scan (some (c :: name)) rest

def ofText (text : Glyphs) : List Piece := scan none text.list

/-- What stands for a piece, given the values of variables; for an unknown one, nothing. -/
def glyphs (lookup : Lookup) : Piece → List Glyph
  | .literal c => [c]
  | .reference name =>
    match lookup name with
    | .ok (some value) => (Glyphs.ofString value).list
    | _ => []

def obstacle? (lookup : Lookup) : Piece → Option Obstacle
  | .literal _ => none
  | .reference name =>
    match lookup name with
    | .ok (some _) => none
    | .ok none => some (.unknown name)
    | .error cause => some (.unreadable cause)

end Piece

def expandText (lookup : Lookup) (text : Glyphs) : Glyphs :=
  ⟨(Piece.ofText text).flatMap (Piece.glyphs lookup)⟩

def obstaclesIn (lookup : Lookup) (text : Glyphs) : List Obstacle :=
  (Piece.ofText text).filterMap (Piece.obstacle? lookup)

namespace Value

/-! ### Trees

References are replaced in the texts of mappings and lists at any depth, but not in keys and not
inside tuples. A mapping or list that is part of itself never comes to an end. -/

mutual

def expand (lookup : Lookup) : Value → Value
  | .text s => .ofGlyphs (expandText lookup s)
  | .broken t => .ofGlyphs (expandText lookup t.glyphs)
  | .list items => .list (expandItems lookup items)
  | .map entries => .map (expandEntries lookup entries)
  | v => v

def expandItems (lookup : Lookup) : List Value → List Value
  | [] => []
  | item :: rest => expand lookup item :: expandItems lookup rest

def expandEntries (lookup : Lookup) : List (Value × Value) → List (Value × Value)
  | [] => []
  | (key, value) :: rest => (key, expand lookup value) :: expandEntries lookup rest

end

mutual

/-- What stands in the way of replacing the references of a tree, in the order of its texts. -/
def obstacles (lookup : Lookup) : Value → List Obstacle
  | .text s => obstaclesIn lookup s
  | .broken t => obstaclesIn lookup t.glyphs
  | .list items => obstaclesInItems lookup items
  | .map entries => obstaclesInEntries lookup entries
  | .enclosing _ => [.endless]
  | _ => []

def obstaclesInItems (lookup : Lookup) : List Value → List Obstacle
  | [] => []
  | item :: rest => obstacles lookup item ++ obstaclesInItems lookup rest

def obstaclesInEntries (lookup : Lookup) : List (Value × Value) → List Obstacle
  | [] => []
  | (_, value) :: rest => obstacles lookup value ++ obstaclesInEntries lookup rest

end

end Value

end CloudTelemetry
