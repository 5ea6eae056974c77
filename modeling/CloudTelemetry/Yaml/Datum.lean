import CloudTelemetry.Yaml.Content
import CloudTelemetry.Yaml.Merge

/-!
# What nodes stand for

`Data.ofGraph`: what the nodes of a document stand for. Each node is built once, so what refers to
one node holds one thing. Of two entries with one key the later stands. Collections are begun before
they are filled, and filled level by level, so of two faults the one nearer to the root is found.
-/

namespace CloudTelemetry.Yaml

/-- Whether two keys are one, because they are the same thing or the same value. -/
def Key.same (a b : Key) : Bool := a.origin == b.origin || a.value.sameKey b.value

/-! ### Scalars -/

namespace Nodes

/-- The text of a scalar; a mapping has that of its default value. The count of nodes bounds the way
there, unless it leads back to where it has been. -/
def scalarText (nodes : Nodes) : Nat → NodeId → Except Fault Glyphs
  | 0, _ => defect .tooDeep
  | fuel + 1, id =>
    match nodes.body id with
    | .scalar text => .ok text
    | .sequence _ => .error .malformed
    | .mapping entries =>
      match entries.find? fun entry => nodes.tag entry.1 == .default with
      | some (_, value) => nodes.scalarText fuel value
      | none => .error .malformed

/-- The value of a node with the type of a scalar. A moment has to be a scalar. -/
def scalarKey (nodes : Nodes) (id : NodeId) : Except Fault Key := do
  let tag := nodes.tag id
  if !tag.isScalar then throw .malformed
  let text ← nodes.scalarText (nodes.size + 1) id
  if tag == .moment && nodes.isMapping id then throw (.defect .wrongKind)
  let atom ← tag.content text
  let isNan := tag == .float && text.string?.any fun s => Tag.isNanWord s.toList
  return ⟨atom, if isNan then .nanWord else .node id⟩

end Nodes

/-! ### Collections -/

structure Builder where
  nodes : Nodes
  data : Data
  /-- collections that have been begun and not filled -/
  later : List NodeId

abbrev Build := StateT Builder (Except Fault)

namespace Build

def set (id : NodeId) (datum : Datum) : Build Unit :=
  modify fun builder => { builder with data := builder.data.setIfInBounds id (some datum) }

def begin (id : NodeId) : Build Unit := do
  let builder ← get
  if (builder.data.getD id none).isSome then return ()
  if (builder.nodes.tag id).isCollection then
    set id (.list [])
    modify fun builder => { builder with later := builder.later ++ [id] }
  else set id (.scalar (← builder.nodes.scalarKey id))

def key (id : NodeId) : Build Key := do
  begin id
  match (← get).data.getD id none with
  | some (.scalar key) => return key
  | _ => throw .malformed

def entry (entry : Entry) : Build (Key × NodeId) := do
  let key ← key entry.1
  begin entry.2
  return (key, entry.2)

def entries (id : NodeId) : Build (List (Key × NodeId)) := do
  let builder ← get
  if !builder.nodes.isMapping id then throw .malformed
  let nodes ← builder.nodes.absorb id
  modify fun builder => { builder with nodes := nodes }
  return Value.distinctEntriesBy Key.same (← (nodes.entries id).mapM entry)

/-- Begins the key and the value of a mapping of a single entry; the key may be a collection. -/
def pair (id : NodeId) : Build Entry := do
  match (← get).nodes.body id with
  | .mapping [(key, value)] =>
    begin key
    begin value
    return (key, value)
  | _ => throw .malformed

def items (id : NodeId) : Build (List NodeId) := do
  match (← get).nodes.body id with
  | .sequence items => return items
  | _ => throw .malformed

def fill (id : NodeId) : Build Unit := do
  match (← get).nodes.tag id with
  | .sequence =>
    let items ← items id
    items.forM begin
    set id (.list items)
  | .mapping => set id (.map (← entries id))
  | .set => set id (.set ((← entries id).map Prod.fst))
  | _ => set id (.pairs (← (← items id).mapM pair))

/-- Fills what has been begun, then what has been begun by that, level by level. -/
def fillAll : Nat → Build Unit
  | 0 => return ()
  | levels + 1 => do
    let level := (← get).later
    modify fun builder => { builder with later := [] }
    level.forM fill
    fillAll levels

end Build

/-- What the nodes of a document stand for. There are no more levels than nodes. -/
def Data.ofGraph (graph : Graph) : Except Fault Data := do
  let build : Build Unit := do
    Build.begin graph.root
    Build.fillAll (graph.nodes.size + 1)
  let start : Builder := ⟨graph.nodes, Array.replicate graph.nodes.size none, []⟩
  let (_, builder) ← build.run start
  return builder.data

end CloudTelemetry.Yaml
