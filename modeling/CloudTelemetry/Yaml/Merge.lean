import CloudTelemetry.Yaml.Node

/-!
# Entries that are taken in

A mapping takes in the entries of the mappings that stand under a merging sign. `Nodes.absorb`
replaces those signs: what is taken in comes first, and where several mappings stand under one sign
those of the first come last, because of two entries with one key the later stands. Nodes are
changed in their places, so whoever refers to a mapping sees it with what it has taken in.
-/

namespace CloudTelemetry.Yaml.Nodes

def tag (nodes : Nodes) (id : NodeId) : Tag := (nodes.getD id .missing).tag

def body (nodes : Nodes) (id : NodeId) : Body := (nodes.getD id .missing).body

def entries (nodes : Nodes) (id : NodeId) : List Entry :=
  match nodes.body id with
  | .mapping entries => entries
  | _ => []

def isMapping (nodes : Nodes) (id : NodeId) : Bool :=
  match nodes.body id with
  | .mapping _ => true
  | _ => false

def setEntries (nodes : Nodes) (id : NodeId) (entries : List Entry) : Nodes :=
  nodes.modify id fun node => { node with body := .mapping entries }

/-- The nodes after a key that is the sign for a default value has become a text. -/
def settleKey (nodes : Nodes) (key : NodeId) : Nodes :=
  if nodes.tag key == .default then nodes.modify key fun node => { node with tag := .text }
  else nodes

/-- What stands under the first merging sign, and all other entries. -/
def splitMerge? (nodes : Nodes) : List Entry → Option (NodeId × List Entry)
  | [] => none
  | (key, value) :: rest =>
    if nodes.tag key == .merge then some (value, rest)
    else (nodes.splitMerge? rest).map fun (target, others) => (target, (key, value) :: others)

/-- Replaces the merging signs of a mapping, from which `taken` has been taken in already. A sign is
removed before what stands under it is looked at, so a mapping may stand under its own. -/
def absorbFrom : Nat → NodeId → List Entry → Nodes → Except Fault Nodes
  | 0, _, _, _ => .error .malformed
  | fuel + 1, id, taken, nodes =>
    match nodes.splitMerge? (nodes.entries id) with
    | none =>
      let nodes := nodes.setEntries id (taken ++ nodes.entries id)
      .ok ((nodes.entries id).foldl (fun nodes entry => settleKey nodes entry.1) nodes)
    | some (target, others) => do
      let nodes := nodes.setEntries id others
      let (given, nodes) ←
        match nodes.body target with
        | .mapping _ => do
          let nodes ← absorbFrom fuel target [] nodes
          pure (nodes.entries target, nodes)
        | .sequence items =>
          items.foldlM (fun ((given, nodes) : List Entry × Nodes) item => do
            if !isMapping nodes item then throw .malformed
            let nodes ← absorbFrom fuel item [] nodes
            return (nodes.entries item ++ given, nodes)) ([], nodes)
        | .scalar _ => throw .malformed
      absorbFrom fuel id (taken ++ given) nodes

/-- How many merging signs there are. Each step of `absorbFrom` removes one. -/
def mergeCount (nodes : Nodes) : Nat :=
  nodes.foldl (fun count node =>
    match node.body with
    | .mapping entries => count + entries.countP fun entry => nodes.tag entry.1 == .merge
    | _ => count) 0

def absorb (nodes : Nodes) (id : NodeId) : Except Fault Nodes :=
  absorbFrom (nodes.mergeCount + 1) id [] nodes

end CloudTelemetry.Yaml.Nodes
