import StackCompiler.Proofs.Yaml.Tokens
import StackCompiler.Yaml.Node

/-!
# The documents of sheets

The tokens of a sheet make up one document (`ofTokens?_tokens`): a mapping whose nodes stand in the
order of the entries (`Sheet.document`), every text being a scalar with the tag of texts.
-/

namespace StackCompiler.Yaml

/-! ## Nodes -/

def textNode (s : String) : Node := ⟨.str, .scalar s.toList⟩

/-- The numbers of the keys and values of a group, from a number on. -/
def entryIds : Nat → List (String × String) → List (NodeId × NodeId)
  | _, [] => []
  | start, _ :: es => (start, start + 1) :: entryIds (start + 2) es

def entryNodes (e : String × String) : List Node := [textNode e.1, textNode e.2]

/-- The nodes of a part whose number is given. -/
def Part.nodes (start : Nat) : Part → List Node
  | .text s => [textNode s]
  | .group es => ⟨.map, .map (entryIds (start + 1) es)⟩ :: es.flatMap entryNodes

/-- The numbers of the keys and parts of a sheet, from a number on. -/
def partIds : Nat → Sheet → List (NodeId × NodeId)
  | _, [] => []
  | start, e :: es =>
    (start, start + 1) :: partIds (start + 1 + (e.2.nodes (start + 1)).length) es

def partNodes : Nat → Sheet → List Node
  | _, [] => []
  | start, e :: es =>
    textNode e.1 :: (e.2.nodes (start + 1) ++
      partNodes (start + 1 + (e.2.nodes (start + 1)).length) es)

/-- The document of a sheet. -/
def Sheet.document (sheet : Sheet) : Document :=
  ⟨(⟨.map, .map (partIds 1 sheet)⟩ :: partNodes 1 sheet).toArray, 0⟩

/-! ## Composing -/

namespace Composer

variable {c : Composer} {ts : List Token} {ns : List Node} {fuel : Nat}

/-- A composer before some tokens that has made some nodes. -/
def holding (c : Composer) (ts : List Token) (ns : List Node) : Composer :=
  { c with tokens := ts, nodes := ns.toArray }

theorem scalarTag_styleOf (isKey : Bool) (cs : List Char) :
    scalarTag none (styleOf isKey cs == .plain) cs = .str := by
  cases hstyle : styleOf isKey cs with
  | plain => exact (plain_of_styleOf hstyle).1
  | quoted => rfl
  | escaped => rfl

/-- A scalar, wherever a node may stand. -/
theorem node_scalar (inBlock unindented : Bool) (style : Style) (cs : List Char) :
    node inBlock unindented (fuel + 1) (c.holding (Lexer.textToken style cs :: ts) ns) =
      .ok (ns.length,
        c.holding ts (ns ++ [⟨scalarTag none (style == .plain) cs, .scalar cs⟩])) := by
  have hadd : (c.holding (Lexer.textToken style cs :: ts) ns).skip.add
        ⟨scalarTag none (style == .plain) cs, .scalar cs⟩ =
      (ns.length, c.holding ts (ns ++ [⟨scalarTag none (style == .plain) cs, .scalar cs⟩])) := by
    simp [add, skip, holding]
  rw [node]
  exact congrArg Except.ok hadd

/-- A text, as a key or a value. -/
theorem blockPart_text (isKey : Bool) (s : String) : blockPart (fuel + 2)
      (c.holding (Lexer.textToken (styleOf isKey s.toList) s.toList :: ts) ns) =
    .ok (ns.length, c.holding ts (ns ++ [textNode s])) := by
  have hnode := @node_scalar c ts ns fuel true true (styleOf isKey s.toList) s.toList
  rw [scalarTag_styleOf] at hnode
  rw [blockPart]
  exact hnode

/-- After a key that has a value, what becomes of the entry is up to the value. -/
theorem blockEntries_key {acc : List (NodeId × NodeId)} {key : NodeId} {k : Composer}
    (hkey : blockPart fuel (c.holding ts ns) = .ok (key, k)) (hpeek : k.peek = .value) :
    blockEntries acc (fuel + 1) (c.holding (.key :: ts) ns) =
      match blockPart fuel k.skip with
      | .ok (value, v) => blockEntries ((key, value) :: acc) fuel v
      | .error f => .error f := by
  have hstart : (c.holding (.key :: ts) ns).peek = .key := rfl
  have hskip : (c.holding (.key :: ts) ns).skip = c.holding ts ns := rfl
  rw [blockEntries, hstart]
  dsimp only
  rw [hskip, hkey]
  dsimp only
  cases blockPart fuel k.skip with
  | ok read => rw [hpeek]
  | error f => rw [hpeek]

theorem blockEntries_cons {acc : List (NodeId × NodeId)} {key value : NodeId} {k v : Composer}
    (hkey : blockPart fuel (c.holding ts ns) = .ok (key, k)) (hpeek : k.peek = .value)
    (hvalue : blockPart fuel k.skip = .ok (value, v)) :
    blockEntries acc (fuel + 1) (c.holding (.key :: ts) ns) =
      blockEntries ((key, value) :: acc) fuel v := by
  rw [blockEntries_key hkey hpeek, hvalue]

theorem blockEntries_end (acc : List (NodeId × NodeId)) :
    blockEntries acc (fuel + 1) (c.holding (.blockEnd :: ts) ns) =
      .ok (.map acc.reverse, c.holding ts ns) := by
  rw [blockEntries]
  rfl

/-- Entries of a group, one after the other. -/
theorem blockEntries_group (hfuel : 2 ≤ fuel) : ∀ (es : List (String × String))
    (acc : List (NodeId × NodeId)) (ns : List Node),
      blockEntries acc (fuel + es.length) (c.holding (es.flatMap entryTokens ++ ts) ns) =
        blockEntries ((entryIds ns.length es).reverse ++ acc) fuel
          (c.holding ts (ns ++ es.flatMap entryNodes))
  | [], acc, ns => by simp [entryIds]
  | e :: es, acc, ns => by
    obtain ⟨rest, hrest⟩ : ∃ rest, fuel + es.length = rest + 2 := ⟨fuel + es.length - 2, by omega⟩
    have hkey := @blockPart_text c
      (.value :: Lexer.valueToken e.2 :: (es.flatMap entryTokens ++ ts)) ns rest
      (isSimpleKey e.1.toList) e.1
    have hvalue := @blockPart_text c (es.flatMap entryTokens ++ ts) (ns ++ [textNode e.1]) rest
      false e.2
    rw [← hrest] at hkey hvalue
    have hnext := blockEntries_group hfuel es ((ns.length, (ns ++ [textNode e.1]).length) :: acc)
      (ns ++ [textNode e.1] ++ [textNode e.2])
    rw [List.flatMap_cons, List.append_assoc]
    refine (blockEntries_cons hkey rfl hvalue).trans (hnext.trans ?_)
    simp [entryIds, entryNodes]

theorem length_entryTokens : ∀ es : List (String × String),
    (es.flatMap entryTokens).length = 4 * es.length
  | [] => rfl
  | e :: es => by
    rw [List.flatMap_cons, List.length_append, length_entryTokens es, List.length_cons]
    exact Nat.add_comm 4 _

theorem modify_append_cons {α : Type} (f : α → α) (x : α) (ys : List α) : ∀ xs : List α,
    (xs ++ x :: ys).modify xs.length f = xs ++ f x :: ys
  | [] => rfl
  | y :: xs => congrArg (y :: ·) (modify_append_cons f x ys xs)

/-- A composer inside a collection. -/
def inside (c : Composer) : Composer := { c with depth := c.depth + 1 }

/-- A collection gets its number before its parts. -/
theorem collection_eq {tag : Tag} {content : Content}
    {parts : Composer → Except Fault (Content × Composer)} (hdepth : c.depth < maxDepth) :
    collection {} tag content parts (c.holding ts ns) =
      (parts (c.inside.holding ts (ns ++ [⟨tag, content⟩])) >>= fun p =>
        .ok (ns.length, p.2.leave ns.length p.1)) := by
  have hadd : (c.holding ts ns).addNamed none ⟨collectionTag none tag, content⟩ =
      .ok (ns.length, c.holding ts (ns ++ [⟨tag, content⟩])) := by
    simp [addNamed, add, holding, collectionTag]
  have henter : (c.holding ts (ns ++ [⟨tag, content⟩])).enter =
      .ok (c.inside.holding ts (ns ++ [⟨tag, content⟩])) := if_pos hdepth
  rw [collection]
  change ((c.holding ts ns).addNamed none ⟨collectionTag none tag, content⟩ >>= _) = _
  rw [hadd]
  change ((c.holding ts (ns ++ [⟨tag, content⟩])).enter >>= fun c => parts c >>= _) = _
  rw [henter]
  rfl

theorem collection_ok {tag : Tag} {content content' : Content}
    {parts : Composer → Except Fault (Content × Composer)} {added : List Node} {ts' : List Token}
    (hdepth : c.depth < maxDepth)
    (hparts : parts (c.inside.holding ts (ns ++ [⟨tag, content⟩])) =
      .ok (content', c.inside.holding ts' (ns ++ ⟨tag, content⟩ :: added))) :
    collection {} tag content parts (c.holding ts ns) =
      .ok (ns.length, c.holding ts' (ns ++ ⟨tag, content'⟩ :: added)) := by
  have hleave : leave ns.length content'
      (c.inside.holding ts' (ns ++ ⟨tag, content⟩ :: added)) =
        c.holding ts' (ns ++ ⟨tag, content'⟩ :: added) := by
    simp [leave, holding, inside, modify_append_cons]
  rw [collection_eq hdepth, hparts]
  exact congrArg (fun c => Except.ok (ns.length, c)) hleave

theorem mapping_ok {parts : Composer → Except Fault (Content × Composer)}
    {entries : List (NodeId × NodeId)} {added : List Node} {ts' : List Token}
    (hdepth : c.depth < maxDepth)
    (hparts : parts (c.inside.holding ts (ns ++ [⟨.map, .map []⟩])) =
      .ok (.map entries, c.inside.holding ts' (ns ++ ⟨.map, .map []⟩ :: added))) :
    mapping {} parts (c.holding ts ns) =
      .ok (ns.length, c.holding ts' (ns ++ ⟨.map, .map entries⟩ :: added)) :=
  collection_ok hdepth hparts

theorem mapping_error {parts : Composer → Except Fault (Content × Composer)} {f : Fault}
    (hdepth : c.depth < maxDepth)
    (hparts : parts (c.inside.holding ts (ns ++ [⟨.map, .map []⟩])) = .error f) :
    mapping {} parts (c.holding ts ns) = .error f := by
  rw [mapping, collection_eq hdepth, hparts]
  rfl

/-- A mapping on lines of its own, as a value. -/
theorem blockPart_mapping : blockPart (fuel + 2) (c.holding (.blockMappingStart :: ts) ns) =
    mapping {} (blockEntries [] fuel) (c.holding ts ns) := by
  rw [blockPart]
  change node true true (fuel + 1) _ = _
  rw [node]
  rfl

/-- The value of an entry of a sheet. -/
theorem blockPart_part (hdepth : c.depth < maxDepth) (part : Part)
    (hfuel : part.tokens.length + 5 ≤ fuel) :
    blockPart fuel (c.holding (part.tokens ++ ts) ns) =
      .ok (ns.length, c.holding ts (ns ++ part.nodes ns.length)) := by
  match part with
  | .text s =>
    obtain ⟨fuel, rfl⟩ : ∃ fuel', fuel = fuel' + 2 := ⟨fuel - 2, by omega⟩
    exact blockPart_text false s
  | .group [] =>
    obtain ⟨fuel, rfl⟩ : ∃ fuel', fuel = fuel' + 3 := ⟨fuel - 3, by omega⟩
    have hentries : flowEntries [] true (fuel + 1)
        (c.inside.holding (.flowMappingEnd :: ts) (ns ++ [⟨.map, .map []⟩])) =
          .ok (.map [], c.inside.holding ts (ns ++ [⟨.map, .map []⟩])) := by
      rw [flowEntries]
      rfl
    rw [blockPart]
    change node true true (fuel + 2) _ = _
    rw [node]
    exact mapping_ok hdepth hentries
  | .group (e :: es) =>
    have hlength : (e :: es).length + 5 ≤ fuel := by
      have := length_entryTokens (e :: es)
      simp only [Part.tokens, List.length_cons, List.length_append] at hfuel this ⊢
      omega
    obtain ⟨fuel, rfl⟩ : ∃ fuel', fuel = fuel' + 2 + (e :: es).length + 2 :=
      ⟨fuel - (e :: es).length - 4, by omega⟩
    have htokens : (Part.group (e :: es)).tokens ++ ts =
        .blockMappingStart :: ((e :: es).flatMap entryTokens ++ .blockEnd :: ts) := by
      simp [Part.tokens]
    have hentries := @blockEntries_group c.inside (.blockEnd :: ts) (fuel + 2) (Nat.le_add_left 2 _)
      (e :: es) [] (ns ++ [⟨.map, .map []⟩])
    rw [blockEntries_end, List.append_nil, List.reverse_reverse, List.append_assoc,
      List.singleton_append, List.length_append] at hentries
    rw [htokens, blockPart_mapping]
    exact mapping_ok hdepth hentries

theorem length_tokens_le : ∀ sheet : Sheet, sheet.length ≤ (sheet.flatMap partTokens).length ∧
    ∀ e ∈ sheet, e.2.tokens.length ≤ (sheet.flatMap partTokens).length
  | [] => ⟨Nat.le_refl 0, fun _ h => absurd h List.not_mem_nil⟩
  | e :: es => by
    obtain ⟨hlength, hparts⟩ := length_tokens_le es
    simp only [List.flatMap_cons, List.length_append, partTokens, List.length_cons,
      List.forall_mem_cons]
    exact ⟨by omega, by omega, fun e' he' => Nat.le_trans (hparts e' he') (Nat.le_add_left _ _)⟩

/-- Entries of a sheet, one after the other. -/
theorem blockEntries_sheet (hdepth : c.depth < maxDepth) : ∀ {sheet : Sheet}
    (acc : List (NodeId × NodeId)) (ns : List Node),
      (∀ e ∈ sheet, e.2.tokens.length + 5 ≤ fuel) →
        blockEntries acc (fuel + sheet.length) (c.holding (sheet.flatMap partTokens ++ ts) ns) =
          blockEntries ((partIds ns.length sheet).reverse ++ acc) fuel
            (c.holding ts (ns ++ partNodes ns.length sheet))
  | [], acc, ns, _ => by simp [partIds, partNodes]
  | e :: es, acc, ns, hfuel => by
    obtain ⟨he, hes⟩ := List.forall_mem_cons.1 hfuel
    obtain ⟨rest, hrest⟩ : ∃ rest, fuel + es.length = rest + 2 := ⟨fuel + es.length - 2, by omega⟩
    have hkey := @blockPart_text c (.value :: (e.2.tokens ++ (es.flatMap partTokens ++ ts))) ns rest
      (isSimpleKey e.1.toList) e.1
    rw [← hrest] at hkey
    have hvalue := @blockPart_part c (es.flatMap partTokens ++ ts) (ns ++ [textNode e.1])
      (fuel + es.length) hdepth e.2 (by omega)
    have hnext := blockEntries_sheet hdepth ((ns.length, (ns ++ [textNode e.1]).length) :: acc)
      (ns ++ [textNode e.1] ++ e.2.nodes (ns ++ [textNode e.1]).length) hes
    rw [List.flatMap_cons, List.append_assoc]
    refine (blockEntries_cons hkey rfl hvalue).trans (hnext.trans ?_)
    simp [partIds, partNodes, Nat.add_assoc, Nat.add_comm 1]

/-- A composer before the tokens of a text. -/
def start (ts : List Token) : Composer := { tokens := ts, handles := defaultHandles }

/-- A document of one mapping on lines of its own. -/
theorem document_mapping {parts : Except Fault (Content × Composer)} {all : List Token}
    (hfuel : (start all).fuel = fuel + 1) (hall : all = .blockMappingStart :: ts)
    (hparts : blockEntries [] fuel ((start []).inside.holding ts [⟨.map, .map []⟩]) = parts) :
    Document.ofTokens? all = parts >>= fun p => close 0 (p.2.leave 0 p.1) := by
  have hnode : node true false (fuel + 1) (start all) =
      (parts >>= fun p => .ok (0, p.2.leave 0 p.1)) := by
    rw [hall, node, ← hparts]
    exact @collection_eq (start []) ts [] _ _ _ (by decide)
  subst hall
  change (start (.blockMappingStart :: ts)).document = _
  rw [document]
  change (node true false (start (.blockMappingStart :: ts)).fuel
    (start (.blockMappingStart :: ts)) >>= fun p => p.2.close p.1) = _
  rw [hfuel, hnode]
  cases parts <;> rfl

end Composer

open Composer in
/-- The tokens of a sheet make up its document. -/
theorem ofTokens?_tokens (sheet : Sheet) :
    Document.ofTokens? sheet.tokens = .ok (some sheet.document) := by
  obtain ⟨hlength, hparts⟩ := length_tokens_le sheet
  obtain ⟨fuel, hfuel, hall⟩ : ∃ fuel, (start sheet.tokens).fuel = fuel + 1 + sheet.length + 1 ∧
      (sheet.flatMap partTokens).length + 5 ≤ fuel + 1 := by
    refine ⟨(start sheet.tokens).fuel - sheet.length - 2, ?_⟩
    simp only [Composer.fuel, start, Sheet.tokens, List.length_cons, List.length_append]
    omega
  have hentries := @blockEntries_sheet (start []).inside [.blockEnd, .streamEnd] (fuel + 1)
    (by decide) sheet [] [⟨.map, .map []⟩] fun e he =>
      Nat.le_trans (Nat.add_le_add_right (hparts e he) 5) hall
  rw [blockEntries_end, List.append_nil, List.reverse_reverse] at hentries
  rw [document_mapping hfuel rfl hentries]
  rfl

end StackCompiler.Yaml
