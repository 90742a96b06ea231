import StackCompiler.Yaml.Node
import StackCompiler.Yaml.Scalar

/-!
# Values of documents

A node denotes a scalar or a collection. Scalars have their values when they are met; a collection
waits in a queue, and gets its parts when its turn comes, so that the first fault in the order of
levels is the one that counts. When a mapping gets its parts, the entries of the mappings that it
merges are put before its own (`flatten`), and this changes the node for all who refer to it.

`Document.data` gives the value as untyped data. A document may refer to itself; below a depth its
collections are empty.
-/

namespace StackCompiler.Yaml

/-- What a node denotes; a collection is known by the number of its node. -/
inductive Value where
  | scalar (s : Scalar)
  | collection (id : NodeId)
  deriving Repr

/-- A collection that has its parts. -/
inductive Collection where
  | list (items : List Value)
  | map (entries : List (Scalar × Value))
  | set (members : List Scalar)
  | pairs (pairs : List (Value × Value))
  deriving Repr

/-- The nodes, the values that are known, the finished collections, and those whose turn is still to
come, the last of them first. -/
structure Builder where
  nodes : Array Node
  values : Array (Option Value)
  collections : Array (Option Collection)
  waiting : List NodeId := []

abbrev Build := StateT Builder (Except Fault)

namespace Builder

def node (b : Builder) (id : NodeId) : Node := b.nodes.getD id .empty

def tag (b : Builder) (id : NodeId) : Tag := (b.node id).tag

/-- The entries of a mapping. -/
def entries? (b : Builder) (id : NodeId) : Option (List (NodeId × NodeId)) :=
  match (b.node id).content with
  | .map entries => some entries
  | _ => none

def setEntries (id : NodeId) (entries : List (NodeId × NodeId)) (b : Builder) : Builder :=
  { b with nodes := b.nodes.modify id ({ · with content := .map entries }) }

/-- Makes a key that stands for itself, an equals sign, a text. -/
def settleKey (b : Builder) (id : NodeId) : Builder :=
  if b.tag id == .value then { b with nodes := b.nodes.modify id ({ · with tag := .str }) } else b

def isMerge (b : Builder) (entry : NodeId × NodeId) : Bool := b.tag entry.1 == .merge

end Builder

namespace Build

def malformed : Build α := throw .malformed

/-! ## Scalars -/

/-- The text of a scalar, or of the value under the key `=` of a mapping. -/
def textOf (b : Builder) : Nat → NodeId → Except Fault (List Char)
  | 0, _ => .error .tooDeep
  | fuel + 1, id =>
    match (b.node id).content with
    | .scalar text => .ok text
    | .seq _ => .error .malformed
    | .map entries =>
      match entries.find? fun (k, _) => b.tag k == .value with
      | some (_, v) => textOf b fuel v
      | none => .error .malformed

/-- The value of a node with the tag of a scalar. -/
def scalarOf (b : Builder) (id : NodeId) : Except Fault Scalar := do
  let tag := b.tag id
  if !tag.isScalar then throw .malformed
  let text ← textOf b (b.nodes.size + 1) id
  if tag == .timestamp && (b.entries? id).isSome then throw .wrongType
  scalarValue tag text

/-- The value of a node. A collection that is met for the first time joins the queue. -/
def valueOf (id : NodeId) : Build Value := do
  let b ← get
  match b.values.getD id none with
  | some v => return v
  | none =>
    let isCollection := (b.tag id).isCollection
    let v ← if isCollection then pure (Value.collection id)
      else StateT.lift (Value.scalar <$> scalarOf b id)
    modify fun b => { b with
      values := b.values.setIfInBounds id (some v)
      waiting := if isCollection then id :: b.waiting else b.waiting }
    return v

/-- The value of a key, which must be a scalar. -/
def keyOf (id : NodeId) : Build Scalar := do
  match ← valueOf id with
  | .scalar s => return s
  | .collection _ => malformed

/-! ## Merged mappings -/

/-- Takes the first merged entry out of a mapping. -/
def takeMerge (b : Builder) (entries : List (NodeId × NodeId)) :
    Option (NodeId × List (NodeId × NodeId)) :=
  match entries.span (!b.isMerge ·) with
  | (before, (_, v) :: after) => some (v, before ++ after)
  | (_, []) => none

/-- Puts the entries of merged mappings before those of a mapping; `merged` are those that were
merged so far. Each step takes a merged entry out, so as many steps as there are such entries
suffice. -/
def flattenFrom : Nat → NodeId → List (NodeId × NodeId) → Build Unit
  | 0, _, _ => malformed
  | fuel + 1, id, merged => do
    let b ← get
    let some entries := b.entries? id | malformed
    match takeMerge b entries with
    | none =>
      modify fun b => entries.foldl (fun b (k, _) => b.settleKey k) b
      unless merged.isEmpty do modify (·.setEntries id (merged ++ entries))
    | some (v, rest) =>
      modify (·.setEntries id rest)
      let one (id : NodeId) : Build (List (NodeId × NodeId)) := do
        flattenFrom fuel id []
        return ((← get).entries? id).getD []
      let more ← match (b.node v).content with
        | .map _ => one v
        | .seq items => (·.reverse.flatten) <$> items.mapM one
        | .scalar _ => malformed
      flattenFrom fuel id (merged ++ more)

/-- How many entries of a node are merged. -/
def mergesIn (b : Builder) (n : Node) : Nat :=
  match n.content with
  | .map entries => entries.countP b.isMerge
  | _ => 0

/-- How many entries are merged in all mappings. -/
def mergeCount (b : Builder) : Nat := b.nodes.toList.foldl (fun count n => count + mergesIn b n) 0

def flatten (id : NodeId) : Build Unit := do flattenFrom (mergeCount (← get) + 1) id []

/-! ## Collections -/

/-- The entries of a mapping; of entries with one key the last value counts. -/
def entriesOf (id : NodeId) : Build (List (Scalar × Value)) := do
  flatten id
  let entries ← (((← get).entries? id).getD []).mapM fun (k, v) => do
    let key ← keyOf k
    return (key, ← valueOf v)
  return dedupEntries entries

/-- The only entry of a mapping. -/
def pairOf (id : NodeId) : Build (Value × Value) := do
  match (← get).entries? id with
  | some [(k, v)] =>
    let key ← valueOf k
    return (key, ← valueOf v)
  | _ => malformed

/-- Gives a collection its parts. -/
def finish (id : NodeId) : Build Unit := do
  let n := (← get).node id
  let c : Collection ← match n.tag, n.content with
    | .seq, .seq items => Collection.list <$> items.mapM valueOf
    | .map, .map _ => Collection.map <$> entriesOf id
    | .set, .map _ => (fun es => .set (es.map (·.1))) <$> entriesOf id
    | .omap, .seq items | .pairs, .seq items => Collection.pairs <$> items.mapM pairOf
    | _, _ => malformed
  modify fun b => { b with collections := b.collections.setIfInBounds id (some c) }

/-- Gives all waiting collections their parts, round by round. A collection waits only once, so as
many rounds as nodes suffice. -/
def finishAll : Nat → Build Unit
  | 0 => pure ()
  | fuel + 1 => do
    let round := (← get).waiting.reverse
    unless round.isEmpty do
      modify ({ · with waiting := [] })
      round.forM finish
      finishAll fuel

end Build

/-! ## Data -/

/-- A value as data, by the data of the collections. -/
def Value.data (table : Array Data) : Value → Data
  | scalar s => .scalar s
  | collection id => table.getD id .null

/-- A collection as data, by the data of the collections in it. -/
def Collection.data (table : Array Data) : Collection → Data
  | .list items => .list (items.map (Value.data table))
  | .map entries => .map (entries.map fun (k, v) => (k, v.data table))
  | .set members => .set members
  | .pairs ps => .list (ps.map fun (a, b) => .list [a.data table, b.data table])

/-- A collection without its parts. -/
def Collection.shell : Collection → Data
  | .list _ | .pairs _ => .list []
  | .map _ => .map []
  | .set members => .set members

/-- The data of the collections down to a depth. -/
def dataTable (collections : Array (Option Collection)) : Nat → Array Data
  | 0 => collections.map fun c? => (c?.map Collection.shell).getD .null
  | depth + 1 =>
    let table := dataTable collections depth
    collections.map fun c? => (c?.map (Collection.data table)).getD .null

/-- How many levels of collections are kept. -/
def maxLevels : Nat := 12

/-- The data that a document denotes. -/
def Document.data (d : Document) : Except Fault Data := do
  let start : Builder := {
    nodes := d.nodes
    values := Array.replicate d.nodes.size none
    collections := Array.replicate d.nodes.size none }
  let (v, b) ← (do
    let v ← Build.valueOf d.root
    Build.finishAll (d.nodes.size + 1)
    return v : Build Value).run start
  return v.data (dataTable b.collections maxLevels)

end StackCompiler.Yaml
