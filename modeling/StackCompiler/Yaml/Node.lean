import StackCompiler.Yaml.Lexer

/-!
# Nodes

A document is a graph of nodes, each with a tag. `Document.ofTokens?` builds it: an alias leads to
the node that it names, which may be one around it, and tags are spelled out by the handles that
directives declare.
-/

namespace StackCompiler.Yaml

/-- A node by its number. -/
abbrev NodeId := Nat

/-- What a node is made of. -/
inductive Content where
  | scalar (text : List Char)
  | seq (items : List NodeId)
  | map (entries : List (NodeId × NodeId))
  deriving DecidableEq, Repr

structure Node where
  tag : Tag
  content : Content
  deriving DecidableEq, Repr

/-- A node of which nothing is written. -/
def Node.empty : Node := ⟨.null, .scalar []⟩

/-- The nodes of a document by their numbers, and the number of the outermost one. -/
structure Document where
  nodes : Array Node
  root : NodeId
  deriving DecidableEq, Repr

/-- What is left of the tokens, the nodes so far and their names, the declared tag handles, and how
many collections are open. -/
structure Composer where
  tokens : List Token
  nodes : Array Node := #[]
  anchors : List (String × NodeId) := []
  handles : List (String × String)
  depth : Nat := 0

namespace Composer

def malformed : Except Fault α := .error .malformed

def peek (c : Composer) : Token := c.tokens.headD .streamEnd

def skip (c : Composer) : Composer := { c with tokens := c.tokens.drop 1 }

/-- The fault of a token that cannot stand where it does. -/
def unexpected (c : Composer) : Except Fault α :=
  match c.peek with
  | .fault f => .error f
  | _ => malformed

/-- Passes a token that must come next. -/
def expect (t : Token) (c : Composer) : Except Fault Composer :=
  if c.peek == t then .ok c.skip else c.unexpected

/-! ## Properties of nodes -/

/-- A tag spelled out. -/
def tagUri (c : Composer) (handle : Option String) (suffix : String) : Except Fault String :=
  match handle with
  | none => .ok suffix
  | some h =>
    match c.handles.lookup h with
    | some start => .ok (start ++ suffix)
    | none => malformed

/-- The anchor and the tag of a node. -/
structure Properties where
  anchor : Option String := none
  tag : Option String := none
  deriving DecidableEq, Repr

def Properties.isEmpty (p : Properties) : Bool := p.anchor.isNone && p.tag.isNone

/-- The anchor and the tag before a node, in either order. Where the text stops making tokens after
the first of them, that counts before an undeclared handle. -/
def properties (c : Composer) : Except Fault (Properties × Composer) :=
  match c.peek with
  | .anchor a =>
    match c.skip.peek with
    | .tag h s => do return (⟨some a, some (← c.tagUri h s)⟩, c.skip.skip)
    | .fault f => .error f
    | _ => .ok (⟨some a, none⟩, c.skip)
  | .tag h s =>
    match c.skip.peek with
    | .anchor a => do return (⟨some a, some (← c.tagUri h s)⟩, c.skip.skip)
    | .fault f => .error f
    | _ => do return (⟨none, some (← c.tagUri h s)⟩, c.skip)
  | _ => .ok ({}, c)

/-- The tag of a scalar. A single exclamation mark counts as no tag, and makes every form plain. -/
def scalarTag (tag : Option String) (isPlain : Bool) (text : List Char) : Tag :=
  match tag with
  | none => if isPlain then .implied text else .str
  | some "!" => .implied text
  | some uri => .ofUri uri

def collectionTag (tag : Option String) (other : Tag) : Tag :=
  match tag with
  | none | some "!" => other
  | some uri => .ofUri uri

/-! ## Adding nodes -/

/-- Adds a node without a name. -/
def add (n : Node) (c : Composer) : NodeId × Composer :=
  (c.nodes.size, { c with nodes := c.nodes.push n })

/-- Adds a node, possibly with a name. Names are not given twice. -/
def addNamed (anchor : Option String) (n : Node) (c : Composer) :
    Except Fault (NodeId × Composer) :=
  match anchor with
  | none => .ok (c.add n)
  | some a =>
    if (c.anchors.lookup a).isSome then malformed
    else
      let (id, c) := c.add n
      .ok (id, { c with anchors := (a, id) :: c.anchors })

/-- Collections deeper than this are not read. -/
def maxDepth : Nat := 485

/-- Enters a collection. -/
def enter (c : Composer) : Except Fault Composer :=
  if c.depth < maxDepth then .ok { c with depth := c.depth + 1 } else .error .tooDeep

/-- Leaves a collection, which now has its content. -/
def leave (id : NodeId) (content : Content) (c : Composer) : Composer :=
  { c with nodes := c.nodes.modify id ({ · with content }), depth := c.depth - 1 }

/-- Adds a collection and reads its content. It has its number and its name before that, so that its
parts can refer to it. -/
def collection (p : Properties) (tag : Tag) (content : Content)
    (parts : Composer → Except Fault (Content × Composer)) (c : Composer) :
    Except Fault (NodeId × Composer) := do
  let (id, c) ← c.addNamed p.anchor ⟨collectionTag p.tag tag, content⟩
  let (content, c) ← parts (← c.enter)
  return (id, c.leave id content)

def sequence (p : Properties) (parts : Composer → Except Fault (Content × Composer))
    (c : Composer) : Except Fault (NodeId × Composer) := c.collection p .seq (.seq []) parts

def mapping (p : Properties) (parts : Composer → Except Fault (Content × Composer))
    (c : Composer) : Except Fault (NodeId × Composer) := c.collection p .map (.map []) parts

/-- An empty scalar, which must have a tag or a name. -/
def emptyScalar (p : Properties) (c : Composer) : Except Fault (NodeId × Composer) :=
  if p.isEmpty then c.unexpected
  else match c.peek with
    | .fault f => .error f
    | _ => c.addNamed p.anchor ⟨scalarTag p.tag true [], .scalar []⟩

/-! ## Nodes -/

mutual

/-- A node. Block collections are taken if `inBlock` holds, and lists without indentation if
`unindented` does. -/
def node (inBlock unindented : Bool) : Nat → Composer → Except Fault (NodeId × Composer)
  | 0, _ => malformed
  | fuel + 1, c =>
    match c.peek with
    | .alias a =>
      match c.anchors.lookup a with
      | some id => .ok (id, c.skip)
      | none => malformed
    | _ =>
      match c.properties with
      | .error f => .error f
      | .ok (p, c) =>
        match c.peek with
        | .scalar text isPlain =>
          c.skip.addNamed p.anchor ⟨scalarTag p.tag isPlain text, .scalar text⟩
        | .flowSequenceStart => c.skip.sequence p (flowItems [] true fuel)
        | .flowMappingStart => c.skip.mapping p (flowEntries [] true fuel)
        | .blockEntry =>
          if unindented then c.sequence p (unindentedItems [] fuel) else c.emptyScalar p
        | .blockSequenceStart =>
          if inBlock then c.skip.sequence p (blockItems [] fuel) else c.emptyScalar p
        | .blockMappingStart =>
          if inBlock then c.skip.mapping p (blockEntries [] fuel) else c.emptyScalar p
        | _ => c.emptyScalar p

/-- The items of a block list, up to its end. -/
def blockItems (acc : List NodeId) : Nat → Composer → Except Fault (Content × Composer)
  | 0, _ => malformed
  | fuel + 1, c =>
    match c.peek with
    | .blockEntry =>
      let item : Except Fault (NodeId × Composer) := match c.skip.peek with
        | .blockEntry | .blockEnd => .ok (c.skip.add .empty)
        | _ => node true false fuel c.skip
      match item with
      | .ok (n, c) => blockItems (n :: acc) fuel c
      | .error f => .error f
    | .blockEnd => .ok (.seq acc.reverse, c.skip)
    | _ => c.unexpected

/-- The items of a list that is indented like the mapping around it. -/
def unindentedItems (acc : List NodeId) : Nat → Composer → Except Fault (Content × Composer)
  | 0, _ => malformed
  | fuel + 1, c =>
    match c.peek with
    | .blockEntry =>
      let item : Except Fault (NodeId × Composer) := match c.skip.peek with
        | .blockEntry | .key | .value | .blockEnd => .ok (c.skip.add .empty)
        | _ => node true false fuel c.skip
      match item with
      | .ok (n, c) => unindentedItems (n :: acc) fuel c
      | .error f => .error f
    | _ => .ok (.seq acc.reverse, c)

/-- The entries of a block mapping, up to its end. -/
def blockEntries (acc : List (NodeId × NodeId)) :
    Nat → Composer → Except Fault (Content × Composer)
  | 0, _ => malformed
  | fuel + 1, c =>
    match c.peek with
    | .key =>
      match blockPart fuel c.skip with
      | .error f => .error f
      | .ok (k, c) =>
        let value : Except Fault (NodeId × Composer) := match c.peek with
          | .value => blockPart fuel c.skip
          | _ => .ok (c.add .empty)
        match value with
        | .ok (v, c) => blockEntries ((k, v) :: acc) fuel c
        | .error f => .error f
    | .blockEnd => .ok (.map acc.reverse, c.skip)
    | _ => c.unexpected

/-- A key or a value of a block mapping, which may be empty. -/
def blockPart : Nat → Composer → Except Fault (NodeId × Composer)
  | 0, _ => malformed
  | fuel + 1, c =>
    match c.peek with
    | .key | .value | .blockEnd => .ok (c.add .empty)
    | _ => node true true fuel c

/-- The items of a flow list, up to its end. -/
def flowItems (acc : List NodeId) (isFirst : Bool) :
    Nat → Composer → Except Fault (Content × Composer)
  | 0, _ => malformed
  | fuel + 1, c =>
    match c.peek with
    | .flowSequenceEnd => .ok (.seq acc.reverse, c.skip)
    | _ => do
      let c ← if isFirst then pure c else c.expect .flowEntry
      match c.peek with
      | .flowSequenceEnd => return (.seq acc.reverse, c.skip)
      | .key =>
        let (n, c) ← c.skip.mapping {} (flowPair fuel)
        flowItems (n :: acc) false fuel c
      | _ =>
        let (n, c) ← node false false fuel c
        flowItems (n :: acc) false fuel c

/-- A mapping of one entry inside a flow list. -/
def flowPair : Nat → Composer → Except Fault (Content × Composer)
  | 0, _ => malformed
  | fuel + 1, c => do
    let (k, c) ← flowPart .flowSequenceEnd fuel c
    let (v, c) ← flowValue .flowSequenceEnd fuel c
    return (.map [(k, v)], c)

/-- The entries of a flow mapping, up to its end. -/
def flowEntries (acc : List (NodeId × NodeId)) (isFirst : Bool) :
    Nat → Composer → Except Fault (Content × Composer)
  | 0, _ => malformed
  | fuel + 1, c =>
    match c.peek with
    | .flowMappingEnd => .ok (.map acc.reverse, c.skip)
    | _ => do
      let c ← if isFirst then pure c else c.expect .flowEntry
      match c.peek with
      | .flowMappingEnd => return (.map acc.reverse, c.skip)
      | .key =>
        let (k, c) ← flowPart .flowMappingEnd fuel c.skip
        let (v, c) ← flowValue .flowMappingEnd fuel c
        flowEntries ((k, v) :: acc) false fuel c
      | _ =>
        let (k, c) ← node false false fuel c
        let (v, c) := c.add .empty
        flowEntries ((k, v) :: acc) false fuel c

/-- A key inside a flow collection, which may be empty. -/
def flowPart (closing : Token) : Nat → Composer → Except Fault (NodeId × Composer)
  | 0, _ => malformed
  | fuel + 1, c =>
    if c.peek == .value || c.peek == .flowEntry || c.peek == closing then .ok (c.add .empty)
    else node false false fuel c

/-- The value after a key inside a flow collection, if there is one. -/
def flowValue (closing : Token) : Nat → Composer → Except Fault (NodeId × Composer)
  | 0, _ => malformed
  | fuel + 1, c =>
    if c.peek == .value then
      let c := c.skip
      if c.peek == .flowEntry || c.peek == closing then .ok (c.add .empty)
      else node false false fuel c
    else .ok (c.add .empty)

end

/-! ## Documents -/

def defaultHandles : List (String × String) := [("!", "!"), ("!!", Tag.coreSpace)]

/-- The directives before a document. A version is named at most once and must be a first one; a
handle is declared at most once. -/
def directives : Nat → Bool → List (String × String) → Composer → Except Fault Composer
  | 0, _, _, _ => malformed
  | fuel + 1, hasVersion, declared, c =>
    match c.peek with
    | .directive (.version major _) =>
      if hasVersion || major != 1 then malformed else directives fuel true declared c.skip
    | .directive (.tag handle start) =>
      if (declared.lookup handle).isSome then malformed
      else directives fuel hasVersion ((handle, start) :: declared) c.skip
    | .directive .unknown => directives fuel hasVersion declared c.skip
    | _ => .ok { c with handles := declared ++ defaultHandles }

def skipDocumentEnds (c : Composer) : Composer :=
  { c with tokens := c.tokens.dropWhile (· == .documentEnd) }

/-- The start of a document with a mark. -/
def startDocument (c : Composer) : Except Fault Composer := do
  let c ← directives (c.tokens.length + 1) false [] c
  c.expect .documentStart

/-- The end of the text, where another document must not start. -/
def close (root : NodeId) (c : Composer) : Except Fault (Option Document) :=
  let c := c.skipDocumentEnds
  if c.peek == .streamEnd then .ok (some ⟨c.nodes, root⟩)
  else match c.startDocument with
    | .error f => .error f
    | .ok _ => malformed

/-- Every token is read by a bounded number of steps. -/
def fuel (c : Composer) : Nat := 4 * c.tokens.length + 4

/-- The only document of a text; nothing may follow it. -/
def document (c : Composer) : Except Fault (Option Document) := do
  let atDirective := match c.peek with | .directive _ => true | _ => false
  if c.peek == .streamEnd then return none
  else if atDirective || c.peek == .documentStart then do
    let c ← c.startDocument
    match c.peek with
    | .directive _ | .documentStart | .documentEnd | .streamEnd =>
      let (id, c) := c.add .empty
      c.close id
    | _ =>
      let (id, c) ← node true false c.fuel c
      c.close id
  else
    let (id, c) ← node true false c.fuel c
    c.close id

end Composer

/-- The document that tokens make up, if there is one. -/
def Document.ofTokens? (ts : List Token) : Except Fault (Option Document) :=
  Composer.document { tokens := ts, handles := Composer.defaultHandles }

end StackCompiler.Yaml
