import CloudTelemetry.Failure

/-!
# Documents

A `Document` is what a `Parser` finds in a text: scalars, and collections that refer to what they
hold by its place, so that one thing may stand in several places, and even in itself.
`Document.value` unfolds it to a value. What is part of itself is unfolded until it comes round
again. Lists and mappings are going to be copied by whoever goes through the value, but tuples stay
what they are; so what is seen inside of a tuple comes round with that tuple (`Sight.copied`). What
is looked at before it is copied comes round by itself (`Sight.direct`).
-/

namespace CloudTelemetry.Yaml

inductive Fault where
  | malformed
  /-- a scalar of the form of a number or character that does not exist -/
  | defect (cause : Defect)
deriving DecidableEq, Repr

/-! ### Scalars -/

inductive Atom where
  | null
  | bool (b : Bool)
  | int (n : Int)
  | float (x : Binary64)
  | text (t : Glyphs)
  | bytes (b : List UInt8)
  | moment (m : Moment)

def Atom.value : Atom → Value
  | .null => .null
  | .bool b => .bool b
  | .int n => .int n
  | .float x => .float x
  | .text t => .ofGlyphs t
  | .bytes b => .bytes b
  | .moment m => .moment m

/-! ### Nodes -/

abbrev NodeId := Nat

abbrev Entry := NodeId × NodeId

/-- Where a key comes from. The word for the value that is no number stands for one and the same
value wherever it is written. -/
inductive Origin where
  | nanWord
  | node (id : NodeId)
deriving DecidableEq, Repr

structure Key where
  atom : Atom
  origin : Origin

def Key.value (key : Key) : Value := key.atom.value

/-- What a node stands for; what it holds is told by nodes. -/
inductive Datum where
  | scalar (key : Key)
  | list (items : List NodeId)
  /-- a list of tuples of a key and a value -/
  | pairs (entries : List Entry)
  | map (entries : List (Key × NodeId))
  | set (items : List Key)

/-- What nodes stand for, nothing for those that have not been begun. -/
abbrev Data := Array (Option Datum)

/-! ### Unfolding -/

/-- How a value is seen. -/
inductive Sight where
  /-- as it is once its lists and mappings have been copied down to its tuples -/
  | copied
  /-- as it stands -/
  | direct
deriving DecidableEq, Repr

/-- Something that is unfolded: a node, or one of the tuples in it, counted from one. -/
abbrev Spot := NodeId × Nat

namespace Data

/-- The value of a node, inside of the spots of `trail`. A trail does not go to a spot twice, but it
may start anew once, at a tuple. -/
def unfold (data : Data) : Nat → Sight → List Spot → NodeId → Value
  | 0, _, _, _ => .null
  | fuel + 1, sight, trail, id =>
    let here : Spot := (id, 0)
    match data.getD id none with
    | none => .null
    | some (.scalar key) => key.value
    | some (.set items) => .set (items.map Key.value)
    | some (.list items) =>
      if trail.contains here then .enclosing .list
      else .list (items.map (data.unfold fuel sight (here :: trail)))
    | some (.map entries) =>
      if trail.contains here then .enclosing .map
      else .map (entries.map fun (key, item) =>
        (key.value, data.unfold fuel sight (here :: trail) item))
    | some (.pairs entries) =>
      if trail.contains here then .enclosing .list
      else .list (entries.zipIdx.map fun ((key, item), index) =>
        let tuple : Spot := (id, index + 1)
        let inside :=
          match sight with
          | .copied => [tuple]
          | .direct => tuple :: here :: trail
        if trail.contains tuple then .enclosing .tuple
        else .tuple [data.unfold fuel .direct inside key, data.unfold fuel .direct inside item])

end Data

/-! ### Documents -/

/-- What nodes stand for, and the node that stands for the whole; an empty text has none. -/
structure Document where
  data : Data
  root : Option NodeId

namespace Document

def valueAt (document : Document) (sight : Sight) (id : NodeId) : Value :=
  document.data.unfold (2 * document.data.size + 2) sight [] id

def value (document : Document) : Value :=
  (document.root.map (document.valueAt .copied)).getD .null

end Document

abbrev Parser := String → Except Fault Document

end CloudTelemetry.Yaml
