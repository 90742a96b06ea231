import StackCompiler.Proofs.Yaml.PageTokens
import StackCompiler.Proofs.Yaml.RoundTrip

/-!
# Pages are read as they were written

The tokens of entries make up one document (`Entries.ofTokens?_tokens`), whose nodes are numbered in
the order in which they are written, and that document shows the data of the entries. So entries
with short, distinct keys are read as they were written (`Entries.read_write`).
-/

namespace StackCompiler.Yaml

/-! ## Nodes -/

def Leaf.node : Leaf → Node
  | text s => textNode s
  | flag b => ⟨.bool, .scalar (Leaf.flag b).chars⟩

mutual

/-- How many nodes there are. -/
def Page.size : Page → Nat
  | .leaf _ => 1
  | .items xs => xs.size + 1
  | .group es => es.size + 1

def Items.size : Items → Nat
  | .one x => x.size
  | .cons x xs => x.size + xs.size

def Item.size : Item → Nat
  | .leaf _ => 1
  | .group es => es.size + 1

def Entries.size : Entries → Nat
  | .one _ value => value.size + 1
  | .cons _ value es => value.size + 1 + es.size

end

/-- The numbers of the items of a list, from a number on. -/
def Items.ids (start : Nat) : Items → List NodeId
  | .one _ => [start]
  | .cons x xs => start :: xs.ids (start + x.size)

/-- The numbers of keys and values, from a number on. -/
def Entries.ids (start : Nat) : Entries → List (NodeId × NodeId)
  | .one _ _ => [(start, start + 1)]
  | .cons _ value es => (start, start + 1) :: es.ids (start + (value.size + 1))

mutual

/-- The nodes of a page, from a number on. -/
def Page.nodes (start : Nat) : Page → List Node
  | .leaf l => [l.node]
  | .items xs => ⟨.seq, .seq (xs.ids (start + 1))⟩ :: xs.nodes (start + 1)
  | .group es => ⟨.map, .map (es.ids (start + 1))⟩ :: es.nodes (start + 1)

def Items.nodes (start : Nat) : Items → List Node
  | .one x => x.nodes start
  | .cons x xs => x.nodes start ++ xs.nodes (start + x.size)

def Item.nodes (start : Nat) : Item → List Node
  | .leaf l => [l.node]
  | .group es => ⟨.map, .map (es.ids (start + 1))⟩ :: es.nodes (start + 1)

def Entries.nodes (start : Nat) : Entries → List Node
  | .one key value => textNode key :: value.nodes (start + 1)
  | .cons key value es =>
    textNode key :: (value.nodes (start + 1) ++ es.nodes (start + (value.size + 1)))

end

/-- The document of entries. -/
def Entries.document (es : Entries) : Document := ⟨((Page.group es).nodes 0).toArray, 0⟩

mutual

theorem Page.length_nodes (page : Page) (start : Nat) :
    (page.nodes start).length = page.size := by
  match page with
  | .leaf l => rfl
  | .items xs => exact congrArg (· + 1) (xs.length_nodes _)
  | .group es => exact congrArg (· + 1) (es.length_nodes _)

theorem Items.length_nodes (xs : Items) (start : Nat) : (xs.nodes start).length = xs.size := by
  match xs with
  | .one x => exact x.length_nodes _
  | .cons x xs =>
    rw [Items.nodes, List.length_append, x.length_nodes, xs.length_nodes]
    rfl

theorem Item.length_nodes (x : Item) (start : Nat) : (x.nodes start).length = x.size := by
  match x with
  | .leaf l => rfl
  | .group es => exact congrArg (· + 1) (es.length_nodes _)

theorem Entries.length_nodes (es : Entries) (start : Nat) :
    (es.nodes start).length = es.size := by
  match es with
  | .one key value => exact congrArg (· + 1) (value.length_nodes _)
  | .cons key value es =>
    rw [Entries.nodes, List.length_cons, List.length_append, value.length_nodes, es.length_nodes,
      Entries.size]
    omega

end

/-! ## Composing -/

namespace Composer

variable {c : Composer} {ts : List Token} {ns : List Node} {fuel : Nat}

/-- A leaf, wherever a node may stand. -/
theorem node_leaf (inBlock unindented : Bool) (l : Leaf) :
    node inBlock unindented (fuel + 1) (c.holding (l.token :: ts) ns) =
      .ok (ns.length, c.holding ts (ns ++ [l.node])) := by
  have hnode : l.node = ⟨scalarTag none (l.style == .plain) l.chars, .scalar l.chars⟩ := by
    cases l with
    | text s => exact congrArg (Node.mk · _) (scalarTag_styleOf false s.toList).symm
    | flag b => cases b <;> rfl
  rw [hnode]
  exact node_scalar inBlock unindented l.style l.chars

theorem blockPart_leaf (l : Leaf) : blockPart (fuel + 2) (c.holding (l.token :: ts) ns) =
    .ok (ns.length, c.holding ts (ns ++ [l.node])) := by
  rw [blockPart]
  exact node_leaf true true l

/-- A list that is indented like the mapping around it, as a value. -/
theorem blockPart_items : blockPart (fuel + 2) (c.holding (.blockEntry :: ts) ns) =
    sequence {} (unindentedItems [] fuel) (c.holding (.blockEntry :: ts) ns) := by
  rw [blockPart]
  change node true true (fuel + 1) _ = _
  rw [node]
  rfl

theorem node_mapping : node true false (fuel + 1) (c.holding (.blockMappingStart :: ts) ns) =
    mapping {} (blockEntries [] fuel) (c.holding ts ns) := by
  rw [node]
  rfl

/-- Such a list ends before what is no item. -/
theorem unindentedItems_end (acc : List NodeId) (hend : ts.head? ≠ some .blockEntry) :
    unindentedItems acc (fuel + 1) (c.holding ts ns) = .ok (.seq acc.reverse, c.holding ts ns) := by
  have hpeek : (c.holding ts ns).peek ≠ .blockEntry := by
    cases ts with
    | nil => exact fun h => Token.noConfusion h
    | cons t ts => exact fun h => hend (congrArg some h)
  rw [unindentedItems]
  split
  · contradiction
  · rfl

theorem unindentedItems_cons {acc : List NodeId} {x : Item} {id : NodeId} {c' : Composer}
    (hitem : node true false fuel (c.holding (x.tokens ++ ts) ns) = .ok (id, c')) :
    unindentedItems acc (fuel + 1) (c.holding (.blockEntry :: (x.tokens ++ ts)) ns) =
      unindentedItems (id :: acc) fuel c' := by
  have hstart : (c.holding (.blockEntry :: (x.tokens ++ ts)) ns).peek = .blockEntry := rfl
  have hskip : (c.holding (.blockEntry :: (x.tokens ++ ts)) ns).skip =
      c.holding (x.tokens ++ ts) ns := rfl
  rw [unindentedItems, hstart]
  dsimp only
  rw [hskip]
  cases x with
  | leaf l =>
    have hpeek : (c.holding ((Item.leaf l).tokens ++ ts) ns).peek = l.token := rfl
    rw [hpeek, Leaf.token, Lexer.textToken]
    dsimp only
    rw [hitem]
  | group es =>
    have hpeek : (c.holding ((Item.group es).tokens ++ ts) ns).peek = .blockMappingStart := rfl
    rw [hpeek]
    dsimp only
    rw [hitem]

/-- An entry of a mapping. -/
theorem blockEntries_entry {acc : List (NodeId × NodeId)} {key : String} {value : NodeId}
    {c' : Composer} (hvalue : blockPart (fuel + 2) (c.holding ts (ns ++ [textNode key])) =
      .ok (value, c')) :
    blockEntries acc (fuel + 3) (c.holding (.key :: Lexer.keyToken key :: .value :: ts) ns) =
      blockEntries ((ns.length, value) :: acc) (fuel + 2) c' :=
  blockEntries_cons (blockPart_text (isSimpleKey key.toList) key) rfl hvalue

end Composer

open Composer

theorem levels_inside {c : Composer} {levels : Nat} (h : c.depth + (levels + 1) ≤ maxDepth) :
    c.depth < maxDepth ∧ c.inside.depth + levels ≤ maxDepth := by
  have hinside : c.inside.depth = c.depth + 1 := rfl
  omega

/-- A group from its first entry on. -/
theorem mapping_group {es : Entries} {c : Composer} {ts : List Token} {ns : List Node} {fuel : Nat}
    (hdepth : c.depth < maxDepth)
    (h : blockEntries [] fuel
        (c.inside.holding (es.tokens ++ .blockEnd :: ts) (ns ++ [⟨.map, .map []⟩])) =
      .ok (.map ([].reverse ++ es.ids (ns ++ [Node.mk .map (.map [])]).length), c.inside.holding ts
        (ns ++ [⟨.map, .map []⟩] ++ es.nodes (ns ++ [Node.mk .map (.map [])]).length))) :
    mapping {} (blockEntries [] fuel) (c.holding (es.tokens ++ [.blockEnd] ++ ts) ns) =
      .ok (ns.length, c.holding ts (ns ++ (Page.group es).nodes ns.length)) := by
  rw [List.append_assoc]
  refine mapping_ok hdepth (h.trans ?_)
  simp

-- By induction on pages. The fuel that suffices is counted in tokens: a call either passes one, or
-- leads from a part to its node, or finds the end of a collection.
mutual

theorem Page.blockPart_tokens (page : Page) {c : Composer} {ts : List Token} {ns : List Node}
    {fuel : Nat} (hfuel : page.tokens.length + 3 ≤ fuel) (hdepth : c.depth + page.levels ≤ maxDepth)
    (hend : ts.head? ≠ some .blockEntry) :
    blockPart fuel (c.holding (page.tokens ++ ts) ns) =
      .ok (ns.length, c.holding ts (ns ++ page.nodes ns.length)) := by
  obtain ⟨fuel, rfl⟩ : ∃ fuel', fuel = fuel' + 2 := ⟨fuel - 2, by omega⟩
  match page with
  | .leaf l => exact blockPart_leaf l
  | .items xs =>
    obtain ⟨hlt, hinside⟩ := levels_inside hdepth
    have hitems := @Items.unindentedItems_tokens xs c.inside ts (ns ++ [⟨.seq, .seq []⟩]) [] fuel
      (Nat.le_of_succ_le_succ (Nat.le_of_succ_le_succ hfuel)) hinside hend
    obtain ⟨rest, hrest⟩ : ∃ rest, xs.tokens = .blockEntry :: rest := by
      cases xs <;> exact ⟨_, rfl⟩
    have hpart := @blockPart_items c (rest ++ ts) ns fuel
    rw [← List.cons_append, ← hrest] at hpart
    refine hpart.trans (collection_ok hlt (hitems.trans ?_))
    simp
  | .group es =>
    obtain ⟨hlt, hinside⟩ := levels_inside hdepth
    simp only [Page.tokens, List.length_cons, List.length_append, List.length_nil] at hfuel
    have hentries := @Entries.blockEntries_tokens es c.inside ts (ns ++ [⟨.map, .map []⟩]) [] fuel
      (by omega) hinside
    exact blockPart_mapping.trans (mapping_group hlt hentries)

theorem Items.unindentedItems_tokens (xs : Items) {c : Composer} {ts : List Token}
    {ns : List Node} {acc : List NodeId} {fuel : Nat} (hfuel : xs.tokens.length + 1 ≤ fuel)
    (hdepth : c.depth + xs.levels ≤ maxDepth) (hend : ts.head? ≠ some .blockEntry) :
    unindentedItems acc fuel (c.holding (xs.tokens ++ ts) ns) =
      .ok (.seq (acc.reverse ++ xs.ids ns.length),
        c.holding ts (ns ++ xs.nodes ns.length)) := by
  match xs with
  | .one x =>
    simp only [Items.tokens, List.length_cons] at hfuel
    obtain ⟨fuel, rfl⟩ : ∃ fuel', fuel = fuel' + 2 := ⟨fuel - 2, by omega⟩
    have hitem := @Item.node_tokens x c ts ns (fuel + 1) (by omega) hdepth
    rw [Items.tokens, List.cons_append, unindentedItems_cons hitem, unindentedItems_end _ hend]
    simp [Items.ids, Items.nodes]
  | .cons x xs =>
    simp only [Items.tokens, List.length_cons, List.length_append] at hfuel
    simp only [Items.levels] at hdepth
    obtain ⟨fuel, rfl⟩ : ∃ fuel', fuel = fuel' + 1 := ⟨fuel - 1, by omega⟩
    have hitem := @Item.node_tokens x c (xs.tokens ++ ts) ns fuel (by omega) (by omega)
    have hitems := @Items.unindentedItems_tokens xs c ts (ns ++ x.nodes ns.length)
      (ns.length :: acc) fuel (by omega) (by omega) hend
    rw [Items.tokens, List.cons_append, List.append_assoc, unindentedItems_cons hitem, hitems]
    simp [Items.ids, Items.nodes, x.length_nodes]

theorem Item.node_tokens (x : Item) {c : Composer} {ts : List Token} {ns : List Node}
    {fuel : Nat} (hfuel : x.tokens.length + 1 ≤ fuel) (hdepth : c.depth + x.levels ≤ maxDepth) :
    node true false fuel (c.holding (x.tokens ++ ts) ns) =
      .ok (ns.length, c.holding ts (ns ++ x.nodes ns.length)) := by
  obtain ⟨fuel, rfl⟩ : ∃ fuel', fuel = fuel' + 1 := ⟨fuel - 1, by omega⟩
  match x with
  | .leaf l => exact node_leaf true false l
  | .group es =>
    obtain ⟨hlt, hinside⟩ := levels_inside hdepth
    simp only [Item.tokens, List.length_cons, List.length_append, List.length_nil] at hfuel
    have hentries := @Entries.blockEntries_tokens es c.inside ts (ns ++ [⟨.map, .map []⟩]) [] fuel
      (by omega) hinside
    exact node_mapping.trans (mapping_group hlt hentries)

theorem Entries.blockEntries_tokens (es : Entries) {c : Composer} {ts : List Token}
    {ns : List Node} {acc : List (NodeId × NodeId)} {fuel : Nat}
    (hfuel : es.tokens.length + 2 ≤ fuel) (hdepth : c.depth + es.levels ≤ maxDepth) :
    blockEntries acc fuel (c.holding (es.tokens ++ .blockEnd :: ts) ns) =
      .ok (.map (acc.reverse ++ es.ids ns.length),
        c.holding ts (ns ++ es.nodes ns.length)) := by
  match es with
  | .one key value =>
    simp only [Entries.tokens, List.length_cons] at hfuel
    obtain ⟨fuel, rfl⟩ : ∃ fuel', fuel = fuel' + 3 := ⟨fuel - 3, by omega⟩
    have hvalue := @Page.blockPart_tokens value c (.blockEnd :: ts) (ns ++ [textNode key])
      (fuel + 2) (by omega) hdepth (by simp)
    rw [Entries.tokens]
    refine (blockEntries_entry hvalue).trans ((blockEntries_end _).trans ?_)
    simp [Entries.ids, Entries.nodes]
  | .cons key value es =>
    simp only [Entries.tokens, List.length_cons, List.length_append] at hfuel
    simp only [Entries.levels] at hdepth
    obtain ⟨fuel, rfl⟩ : ∃ fuel', fuel = fuel' + 3 := ⟨fuel - 3, by omega⟩
    obtain ⟨rest, hrest⟩ : ∃ rest, es.tokens = .key :: rest := by
      cases es <;> exact ⟨_, rfl⟩
    have hvalue := @Page.blockPart_tokens value c (es.tokens ++ .blockEnd :: ts)
      (ns ++ [textNode key]) (fuel + 2) (by omega) (by omega) (by simp [hrest])
    have hes := @Entries.blockEntries_tokens es c ts
      (ns ++ [textNode key] ++ value.nodes (ns ++ [textNode key]).length)
      ((ns.length, (ns ++ [textNode key]).length) :: acc) (fuel + 2) (by omega) (by omega)
    rw [Entries.tokens, List.cons_append, List.cons_append, List.cons_append, List.append_assoc]
    refine (blockEntries_entry hvalue).trans (hes.trans ?_)
    simp [Entries.ids, Entries.nodes, value.length_nodes]

end

/-- The tokens of entries make up their document. -/
theorem Entries.ofTokens?_tokens (es : Entries) (hlevels : es.levels < maxDepth) :
    Document.ofTokens? (.blockMappingStart :: (es.tokens ++ [.blockEnd, .streamEnd])) =
      .ok (some es.document) := by
  obtain ⟨fuel, hfuel, hle⟩ : ∃ fuel,
      (start (.blockMappingStart :: (es.tokens ++ [.blockEnd, .streamEnd]))).fuel = fuel + 1 ∧
        es.tokens.length + 2 ≤ fuel := by
    refine ⟨(start (.blockMappingStart :: (es.tokens ++ [.blockEnd, .streamEnd]))).fuel - 1, ?_⟩
    simp only [Composer.fuel, start, List.length_cons, List.length_append]
    omega
  have hentries := @Entries.blockEntries_tokens es (start []).inside [.streamEnd]
    [⟨.map, .map []⟩] [] fuel hle (by rw [Nat.add_comm]; exact hlevels)
  rw [document_mapping hfuel rfl hentries]
  rfl

/-! ## Data -/

/-- Entries by the texts of their keys. -/
def Entries.fields : Entries → List (String × Data)
  | .one key value => [(key, value.data)]
  | .cons key value es => (key, value.data) :: es.fields

def Entries.keys : Entries → List String
  | .one key _ => [key]
  | .cons key _ es => key :: es.keys

mutual

/-- The keys of each mapping are distinct. -/
def Page.Distinct : Page → Prop
  | .leaf _ => True
  | .items xs => xs.Distinct
  | .group es => es.Distinct

def Items.Distinct : Items → Prop
  | .one x => x.Distinct
  | .cons x xs => x.Distinct ∧ xs.Distinct

def Item.Distinct : Item → Prop
  | .leaf _ => True
  | .group es => es.Distinct

def Entries.Distinct : Entries → Prop
  | .one _ value => value.Distinct
  | .cons key value es => key ∉ es.keys ∧ value.Distinct ∧ es.Distinct

end

theorem Entries.map_data : ∀ es : Entries, Data.map es.data = .record es.fields
  | .one _ _ => rfl
  | .cons key value es => by
    have h := Data.map.inj es.map_data
    rw [Entries.data, h]
    rfl

theorem Entries.map_fields : ∀ es : Entries, es.fields.map (·.1) = es.keys
  | .one _ _ => rfl
  | .cons key _ es => congrArg (key :: ·) es.map_fields

theorem Entries.Distinct.nodup : ∀ {es : Entries}, es.Distinct → es.keys.Nodup
  | .one _ _, _ => List.nodup_singleton _
  | .cons _ _ _, h => List.nodup_cons.2 ⟨h.1, h.2.2.nodup⟩

variable {nodes : Array Node} {start n : Nat} {part part' : List Node} {node : Node}

/-- Nodes that stand one after the other, from a number on. -/
def StandAt (nodes : Array Node) (start : Nat) (part : List Node) : Prop :=
  part <+: nodes.toList.drop start

namespace StandAt

theorem left (h : StandAt nodes start (part ++ part')) : StandAt nodes start part :=
  (List.prefix_append _ _).trans h

theorem right (h : StandAt nodes start (part ++ part')) :
    StandAt nodes (start + part.length) part' := by
  obtain ⟨rest, hrest⟩ := h
  refine ⟨rest, ?_⟩
  rw [← List.drop_drop, ← hrest, List.append_assoc, List.drop_left]

theorem head (h : StandAt nodes start (node :: part)) : nodes[start]? = some node := by
  obtain ⟨rest, hrest⟩ := h
  have hget := congrArg (·[0]?) hrest
  simpa using hget.symm

theorem tail (h : StandAt nodes start (node :: part)) : StandAt nodes (start + 1) part :=
  @right nodes start [node] part h

end StandAt

theorem Leaf.hasScalar {l : Leaf} {id : NodeId} (h : nodes[id]? = some l.node) :
    ∃ s, HasScalar nodes id s ∧ l.data = .scalar s := by
  cases l with
  | text s => exact ⟨.str s, hasScalar_text h, rfl⟩
  | flag b =>
    refine ⟨.bool b, ⟨.bool, (Leaf.flag b).chars, h, rfl, ?_⟩, rfl⟩
    have hvalue : truthValue (Leaf.flag b).chars = .ok b := by cases b <;> rfl
    rw [scalarValue, hvalue]
    rfl

/-- A group with distinct keys. -/
theorem shows_group {es : Entries} (hself : nodes[start]? = some ⟨.map, .map (es.ids (start + 1))⟩)
    (hdistinct : es.Distinct)
    (hentries : List.Forall₂ (ShowsEntry nodes n) (es.ids (start + 1)) es.fields) :
    Shows nodes (n + 1) start (.map es.data) := by
  rw [es.map_data]
  refine .inr (.record hself ?_ hentries)
  rw [es.map_fields]
  exact hdistinct.nodup

-- By induction on pages, along the numbers that composing gives to nodes.
mutual

theorem Page.shows (page : Page) {start n : Nat} (hat : StandAt nodes start (page.nodes start))
    (hdistinct : page.Distinct) (hlevels : page.levels ≤ n) : Shows nodes n start page.data := by
  match page with
  | .leaf l =>
    obtain ⟨s, hscalar, hdata⟩ := Leaf.hasScalar hat.head
    rw [Page.data, hdata]
    exact shows_scalar hscalar
  | .items xs =>
    obtain ⟨n, rfl⟩ : ∃ n', n = n' + 1 := ⟨n - 1, by rw [Page.levels] at hlevels; omega⟩
    exact .inr (.list hat.head (xs.shows hat.tail hdistinct (Nat.le_of_succ_le_succ hlevels)))
  | .group es =>
    obtain ⟨n, rfl⟩ : ∃ n', n = n' + 1 := ⟨n - 1, by rw [Page.levels] at hlevels; omega⟩
    exact shows_group hat.head hdistinct
      (es.shows hat.tail hdistinct (Nat.le_of_succ_le_succ hlevels))

theorem Items.shows (xs : Items) {start n : Nat} (hat : StandAt nodes start (xs.nodes start))
    (hdistinct : xs.Distinct) (hlevels : xs.levels ≤ n) :
    List.Forall₂ (Shows nodes n) (xs.ids start) xs.data := by
  match xs with
  | .one x => exact .cons (x.shows hat hdistinct hlevels) .nil
  | .cons x xs =>
    have hrest := hat.right
    rw [x.length_nodes] at hrest
    exact .cons (x.shows hat.left hdistinct.1 (Nat.le_trans (Nat.le_max_left _ _) hlevels))
      (xs.shows hrest hdistinct.2 (Nat.le_trans (Nat.le_max_right _ _) hlevels))

theorem Item.shows (x : Item) {start n : Nat} (hat : StandAt nodes start (x.nodes start))
    (hdistinct : x.Distinct) (hlevels : x.levels ≤ n) : Shows nodes n start x.data := by
  match x with
  | .leaf l =>
    obtain ⟨s, hscalar, hdata⟩ := Leaf.hasScalar hat.head
    rw [Item.data, hdata]
    exact shows_scalar hscalar
  | .group es =>
    obtain ⟨n, rfl⟩ : ∃ n', n = n' + 1 := ⟨n - 1, by rw [Item.levels] at hlevels; omega⟩
    exact shows_group hat.head hdistinct
      (es.shows hat.tail hdistinct (Nat.le_of_succ_le_succ hlevels))

theorem Entries.shows (es : Entries) {start n : Nat}
    (hat : StandAt nodes start (es.nodes start)) (hdistinct : es.Distinct)
    (hlevels : es.levels ≤ n) :
    List.Forall₂ (ShowsEntry nodes n) (es.ids start) es.fields := by
  match es with
  | .one key value => exact .cons ⟨hat.head, value.shows hat.tail hdistinct hlevels⟩ .nil
  | .cons key value es =>
    obtain ⟨-, hvalue, hes⟩ := hdistinct
    have hrest := hat.tail.right
    rw [value.length_nodes, Nat.add_assoc, Nat.add_comm 1] at hrest
    exact .cons
      ⟨hat.head, value.shows hat.tail.left hvalue (Nat.le_trans (Nat.le_max_left _ _) hlevels)⟩
      (es.shows hrest hes (Nat.le_trans (Nat.le_max_right _ _) hlevels))

end

/-! ## Written characters -/

theorem Leaf.WrittenAt.chars {l : Leaf} {width : Nat} {t : List Char} (h : l.WrittenAt width t) :
    ∀ c ∈ t, isWrittenChar c := by
  obtain ⟨w, hw, rfl⟩ := h
  simp only [List.forall_mem_cons, List.forall_mem_append]
  exact ⟨by decide, hw.chars (Nat.succ_pos _), by decide, fun _ h => absurd h List.not_mem_nil⟩

theorem chars_key {key : String} {t : List Char} (hkey : IsShortKey key)
    (h : ∀ c ∈ t, isWrittenChar c) : ∀ c ∈ keyForm key.toList ++ ':' :: t, isWrittenChar c :=
  List.forall_mem_append.2 ⟨fun c hc => isWrittenChar_of_isPlainAscii
    (isPlainAscii_keyForm hkey.simple c hc), List.forall_mem_cons.2 ⟨by decide, h⟩⟩

theorem chars_line {width : Nat} {t : List Char} (h : ∀ c ∈ t, isWrittenChar c) :
    ∀ c ∈ List.replicate width ' ' ++ t, isWrittenChar c :=
  List.forall_mem_append.2 ⟨isWrittenChar_blanks _, h⟩

mutual

theorem Page.chars (page : Page) {width : Nat} {t : List Char} (h : page.WrittenAt width t)
    (hfits : page.Fits) : ∀ c ∈ t, isWrittenChar c := by
  match page with
  | .leaf l => exact Leaf.WrittenAt.chars h
  | .items xs =>
    obtain ⟨t', ht', rfl⟩ := h
    exact List.forall_mem_cons.2 ⟨by decide, chars_line (xs.chars ht' hfits)⟩
  | .group es =>
    obtain ⟨t', ht', rfl⟩ := h
    exact List.forall_mem_cons.2 ⟨by decide, chars_line (es.chars ht' hfits)⟩

theorem Items.chars (xs : Items) {width : Nat} {t : List Char} (h : xs.WrittenAt width t)
    (hfits : xs.Fits) : ∀ c ∈ t, isWrittenChar c := by
  match xs with
  | .one x =>
    obtain ⟨t', ht', rfl⟩ := h
    exact List.forall_mem_cons.2 ⟨by decide, x.chars ht' hfits⟩
  | .cons x xs =>
    obtain ⟨t', rest, ht', hrest, rfl⟩ := h
    exact List.forall_mem_cons.2 ⟨by decide, List.forall_mem_append.2
      ⟨x.chars ht' hfits.1, chars_line (xs.chars hrest hfits.2)⟩⟩

theorem Item.chars (x : Item) {width : Nat} {t : List Char} (h : x.WrittenAt width t)
    (hfits : x.Fits) : ∀ c ∈ t, isWrittenChar c := by
  match x with
  | .leaf l => exact Leaf.WrittenAt.chars h
  | .group es =>
    obtain ⟨t', ht', rfl⟩ := h
    exact List.forall_mem_cons.2 ⟨by decide, es.chars ht' hfits⟩

theorem Entries.chars (es : Entries) {width : Nat} {t : List Char} (h : es.WrittenAt width t)
    (hfits : es.Fits) : ∀ c ∈ t, isWrittenChar c := by
  match es with
  | .one key value =>
    obtain ⟨t', ht', rfl⟩ := h
    exact chars_key hfits.1 (value.chars ht' hfits.2)
  | .cons key value es =>
    obtain ⟨t', rest, ht', hrest, rfl⟩ := h
    obtain ⟨hkey, hvalue, hes⟩ := hfits
    exact chars_key hkey (List.forall_mem_append.2
      ⟨value.chars ht' hvalue, chars_line (es.chars hrest hes)⟩)

end

/-! ## Reading -/

mutual

theorem Page.levels_le_size (page : Page) : page.levels ≤ page.size := by
  match page with
  | .leaf l => exact Nat.zero_le _
  | .items xs => exact Nat.succ_le_succ xs.levels_le_size
  | .group es => exact Nat.succ_le_succ es.levels_le_size

theorem Items.levels_le_size (xs : Items) : xs.levels ≤ xs.size := by
  match xs with
  | .one x => exact x.levels_le_size
  | .cons x xs =>
    have hx := x.levels_le_size
    have hxs := xs.levels_le_size
    rw [Items.levels, Items.size]
    omega

theorem Item.levels_le_size (x : Item) : x.levels ≤ x.size := by
  match x with
  | .leaf l => exact Nat.zero_le _
  | .group es => exact Nat.succ_le_succ es.levels_le_size

theorem Entries.levels_le_size (es : Entries) : es.levels ≤ es.size := by
  match es with
  | .one key value => exact Nat.le_succ_of_le value.levels_le_size
  | .cons key value es =>
    have hvalue := value.levels_le_size
    have hes := es.levels_le_size
    rw [Entries.levels, Entries.size]
    omega

end

theorem hasRoom_of_levels {levels : Nat} (h : levels < maxLevels) : HasRoom 0 levels := by
  unfold HasRoom indentStep lineWidth
  unfold maxLevels at h
  omega

theorem Entries.chars_write {es : Entries} (hlevels : es.levels < maxLevels) (hfits : es.Fits) :
    ∀ c ∈ (write (.map es.data)).toList, isWrittenChar c :=
  es.chars (es.writtenAt_write (hasRoom_of_levels hlevels) hfits) hfits

/-- What is written of entries is found again in a file. -/
theorem Entries.plainLineEnds_write {es : Entries} (hlevels : es.levels < maxLevels)
    (hfits : es.Fits) :
    String.ofList (Text.plainLineEnds (write (.map es.data)).toList) = write (.map es.data) := by
  rw [plainLineEnds_of_written (chars_write hlevels hfits), String.ofList_toList]

/-- Entries with short, distinct keys are read as they were written. -/
theorem Entries.read_write {es : Entries} (hlevels : es.levels < maxLevels) (hfits : es.Fits)
    (hdistinct : es.Distinct) : read (write (.map es.data)) = .ok (.map es.data) := by
  have hroom := hasRoom_of_levels hlevels
  have htokens := es.tokens_of_writtenAt (es.writtenAt_write hroom hfits) hroom hfits
  have hread := read_eq (chars_write hlevels hfits)
  rw [String.ofList_toList, readTokens, htokens,
    es.ofTokens?_tokens (Nat.lt_trans hlevels (by decide))] at hread
  rw [hread]
  have hat : StandAt es.document.nodes 0 ((Page.group es).nodes 0) := List.prefix_refl _
  have hsize : es.levels + 1 ≤ es.document.nodes.size := by
    change _ ≤ ((Page.group es).nodes 0).length
    rw [Page.length_nodes]
    exact (Page.group es).levels_le_size
  exact data_of_shows ((Page.group es).shows hat hdistinct (Nat.le_refl _)) hsize hlevels

end StackCompiler.Yaml
