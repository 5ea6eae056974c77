import CloudTelemetry.Yaml.Tag
import CloudTelemetry.Yaml.Token

/-!
# Nodes

`Graph.ofTokens`: the nodes of the document in a text. A node refers to the nodes that it holds by
their places, so a node may stand in several others, and even in itself. An item, key or value that
is left out is an empty plain scalar. An alias stands for the node that its anchor names. A text
holds one document at most. Tokens are looked at in their order, so of two faults the earlier is
found.
-/

namespace CloudTelemetry.Yaml

inductive Body where
  | scalar (text : Glyphs)
  | sequence (items : List NodeId)
  | mapping (entries : List Entry)
deriving Repr

structure Node where
  tag : Tag
  body : Body
deriving Repr

def Node.missing : Node := ⟨.null, .scalar ""⟩

abbrev Nodes := Array Node

structure Graph where
  nodes : Nodes
  root : NodeId

structure Reader where
  tokens : Tokens
  nodes : Nodes
  anchors : List (String × NodeId)
  handles : List (String × String)

abbrev Reading := StateT Reader (Except Fault)

namespace Reading

/-! ### Tokens -/

def peek : Reading (Option Token) := do
  match (← get).tokens with
  | .done => return none
  | .broken fault => throw fault
  | .next token _ => return some token

def drop : Reading Unit :=
  modify fun reader =>
    match reader.tokens with
    | .next _ rest => { reader with tokens := rest }
    | _ => reader

def nextIn (choices : List Token) : Reading Bool := do
  return (← peek).any choices.contains

def take? (token : Token) : Reading Bool := do
  if ← nextIn [token] then
    drop
    return true
  else return false

def malformed {α : Type} : Reading α := throw .malformed

/-! ### Names and types -/

def named (name : String) : Reading NodeId := do
  match (← get).anchors.lookup name with
  | some id => return id
  | none => malformed

def newPlace : Reading NodeId := do
  let id := (← get).nodes.size
  modify fun reader => { reader with nodes := reader.nodes.push .missing }
  return id

/-- A place for a node that is about to be read, under its name if it has one. A name is given
once. -/
def reserve : Option String → Reading NodeId
  | none => newPlace
  | some name => do
    if ((← get).anchors.lookup name).isSome then malformed
    let id ← newPlace
    modify fun reader => { reader with anchors := (name, id) :: reader.anchors }
    return id

def put (id : NodeId) (tag : Tag) (body : Body) : Reading NodeId := do
  modify fun reader => { reader with nodes := reader.nodes.setIfInBounds id ⟨tag, body⟩ }
  return id

def fullName (mark : TagMark) : Reading String := do
  match mark.handle with
  | none => return mark.suffix
  | some handle =>
    match (← get).handles.lookup handle with
    | some stem => return stem ++ mark.suffix
    | none => malformed

def properties : Reading (Option String × Option String) := do
  match ← peek with
  | some (.anchor name) =>
    drop
    match ← peek with
    | some (.tag mark) =>
      drop
      return (some name, some (← fullName mark))
    | _ => return (some name, none)
  | some (.tag mark) =>
    drop
    match ← peek with
    | some (.anchor name) =>
      drop
      return (some name, some (← fullName mark))
    | _ => return (none, some (← fullName mark))
  | _ => return (none, none)

def scalarTag (name? : Option String) (plain : Bool) (text : Glyphs) : Tag :=
  match name? with
  | none => if plain then Tag.ofForm text else .text
  | some "!" => Tag.ofForm text
  | some name => Tag.ofName name

def collectionTag (name? : Option String) (usual : Tag) : Tag :=
  match name? with
  | none => usual
  | some "!" => usual
  | some name => Tag.ofName name

/-! ### Collections -/

/-- Nodes may be nested this deep. -/
def deepest : Nat := 487

mutual

/-- A node, in a block or in flow; a sequence may start at the column of its key without a token
of its own. `depth` says how much deeper nodes may be nested. -/
def node (block bare : Bool) (depth : Nat) : Nat → Reading NodeId
  | 0 => malformed
  | fuel + 1 => do
    if depth = 0 then throw (.defect .tooDeep)
    match ← peek with
    | some (.alias name) =>
      drop
      named name
    | _ =>
      let (name?, type?) ← properties
      let next ← peek
      match next, bare, block with
      | some .blockEntry, true, _ =>
        let id ← reserve name?
        put id (collectionTag type? .sequence) (.sequence (← bareItems (depth - 1) fuel))
      | some (.scalar plain text), _, _ =>
        drop
        let id ← reserve name?
        put id (scalarTag type? plain text) (.scalar text)
      | some .flowSequenceStart, _, _ =>
        let id ← reserve name?
        drop
        put id (collectionTag type? .sequence) (.sequence (← flowItems true (depth - 1) fuel))
      | some .flowMappingStart, _, _ =>
        let id ← reserve name?
        drop
        put id (collectionTag type? .mapping) (.mapping (← flowEntries true (depth - 1) fuel))
      | some .blockSequenceStart, _, true =>
        let id ← reserve name?
        drop
        put id (collectionTag type? .sequence) (.sequence (← blockItems (depth - 1) fuel))
      | some .blockMappingStart, _, true =>
        let id ← reserve name?
        drop
        put id (collectionTag type? .mapping) (.mapping (← blockEntries (depth - 1) fuel))
      | _, _, _ =>
        if name?.isSome || type?.isSome then
          let id ← reserve name?
          put id (scalarTag type? true "") (.scalar "")
        else malformed
termination_by structural fuel => fuel

def blockItems (depth : Nat) : Nat → Reading (List NodeId)
  | 0 => malformed
  | fuel + 1 => do
    if ← take? .blockEntry then
      let item ←
        if ← nextIn [.blockEntry, .blockEnd] then newPlace else node true false depth fuel
      return item :: (← blockItems depth fuel)
    else if ← take? .blockEnd then return []
    else malformed
termination_by structural fuel => fuel

def bareItems (depth : Nat) : Nat → Reading (List NodeId)
  | 0 => malformed
  | fuel + 1 => do
    if ← take? .blockEntry then
      let item ←
        if ← nextIn [.blockEntry, .key, .value, .blockEnd] then newPlace
        else node true false depth fuel
      return item :: (← bareItems depth fuel)
    else return []
termination_by structural fuel => fuel

def blockPart (depth : Nat) : Nat → Reading NodeId
  | 0 => malformed
  | fuel + 1 => do
    if ← nextIn [.key, .value, .blockEnd] then newPlace else node true true depth fuel
termination_by structural fuel => fuel

/-- The entries of a block mapping, up to its end. A key or a value may be left out. -/
def blockEntries (depth : Nat) : Nat → Reading (List Entry)
  | 0 => malformed
  | fuel + 1 => do
    if ← take? .key then
      let key ← blockPart depth fuel
      let value ← if ← take? .value then blockPart depth fuel else newPlace
      return (key, value) :: (← blockEntries depth fuel)
    else if ← take? .blockEnd then return []
    else malformed
termination_by structural fuel => fuel

/-- A key in flow, read after its token, and the value after it, inside a collection that ends with
`last`. -/
def flowEntry (last : Token) (depth : Nat) : Nat → Reading Entry
  | 0 => malformed
  | fuel + 1 => do
    let key ←
      if ← nextIn [.value, .flowEntry, last] then newPlace else node false false depth fuel
    let value ←
      if ← take? .value then
        if ← nextIn [.flowEntry, last] then newPlace else node false false depth fuel
      else newPlace
    return (key, value)
termination_by structural fuel => fuel

/-- The items of a flow sequence, up to its end. An entry by itself is a mapping of its own. -/
def flowItems (first : Bool) (depth : Nat) : Nat → Reading (List NodeId)
  | 0 => malformed
  | fuel + 1 => do
    if ← take? .flowSequenceEnd then return []
    if !first then
      if !(← take? .flowEntry) then malformed
    if ← take? .flowSequenceEnd then return []
    else if ← take? .key then
      if depth = 0 then throw (.defect .tooDeep)
      let id ← newPlace
      let entry ← flowEntry .flowSequenceEnd (depth - 1) fuel
      return (← put id .mapping (.mapping [entry])) :: (← flowItems false depth fuel)
    else
      let item ← node false false depth fuel
      return item :: (← flowItems false depth fuel)
termination_by structural fuel => fuel

/-- The entries of a flow mapping, up to its end. A key may stand without a value. -/
def flowEntries (first : Bool) (depth : Nat) : Nat → Reading (List Entry)
  | 0 => malformed
  | fuel + 1 => do
    if ← take? .flowMappingEnd then return []
    if !first then
      if !(← take? .flowEntry) then malformed
    if ← take? .flowMappingEnd then return []
    else if ← take? .key then
      let entry ← flowEntry .flowMappingEnd depth fuel
      return entry :: (← flowEntries false depth fuel)
    else
      let key ← node false false depth fuel
      return (key, ← newPlace) :: (← flowEntries false depth fuel)
termination_by structural fuel => fuel

end

/-! ### Documents -/

def usualHandles : List (String × String) := [("!", "!"), ("!!", Tag.stem)]

/-- The directives in front of a document; `versioned` says whether one of them gave a version. -/
def directives (versioned : Bool) : Nat → Reading Unit
  | 0 => malformed
  | fuel + 1 => do
    match ← peek with
    | some (.directive (.version major)) =>
      drop
      if versioned || major ≠ 1 then malformed else directives true fuel
    | some (.directive (.handle handle stem)) =>
      drop
      if ((← get).handles.lookup handle).isSome then malformed
      else
        modify fun reader => { reader with handles := (handle, stem) :: reader.handles }
        directives versioned fuel
    | some (.directive .other) =>
      drop
      directives versioned fuel
    | _ => modify fun reader => { reader with handles := reader.handles ++ usualHandles }

def marked (fuel : Nat) : Reading NodeId := do
  directives false fuel
  if !(← take? .documentStart) then malformed
  match ← peek with
  | none => newPlace
  | some .documentStart => newPlace
  | some .documentEnd => newPlace
  | some (.directive _) => newPlace
  | _ => node true false deepest fuel

def close : Nat → Reading Unit
  | 0 => malformed
  | fuel + 1 => do
    if ← take? .documentEnd then close fuel
    else if (← peek).isNone then return ()
    else
      modify fun reader => { reader with handles := [] }
      directives false fuel
      malformed

def document (fuel : Nat) : Reading (Option NodeId) := do
  match ← peek with
  | none => return none
  | some .documentStart =>
    let found ← marked fuel
    close fuel
    return found
  | some (.directive _) =>
    let found ← marked fuel
    close fuel
    return found
  | _ =>
    modify fun reader => { reader with handles := usualHandles }
    let found ← node true false deepest fuel
    close fuel
    return found

end Reading

def Graph.ofTokens (tokens : Tokens) : Except Fault (Option Graph) := do
  let (root, reader) ← (Reading.document (6 * tokens.length + 10)).run ⟨tokens, #[], [], []⟩
  return root.map fun root => ⟨reader.nodes, root⟩

end CloudTelemetry.Yaml
