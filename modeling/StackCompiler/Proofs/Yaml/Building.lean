import Mathlib.Data.List.TakeDrop
import StackCompiler.Proofs.Data.Entries
import StackCompiler.Proofs.Yaml.Composing
import StackCompiler.Yaml.Builder

/-!
# The data of documents

`Shows nodes n id d` says that a node shows data: a scalar, a list, or a mapping with distinct texts
as keys, with at most `n` collections inside one another. The data of a document is what its root
shows (`data_of_shows`). Building it goes round by round; what a builder knows in between is right
(`Builder.Sane`), and after the last round every collection that was met has its parts.
-/

namespace StackCompiler.Yaml

variable {nodes : Array Node} {id : NodeId} {n : Nat} {d : Data}

/-! ## What nodes show -/

/-- A node is a scalar with a value. -/
def HasScalar (nodes : Array Node) (id : NodeId) (s : Scalar) : Prop :=
  ∃ tag text, nodes[id]? = some ⟨tag, .scalar text⟩ ∧ tag.isScalar ∧ scalarValue tag text = .ok s

/-- A node is a collection whose parts show data. -/
inductive ShowsParts (nodes : Array Node) (R : NodeId → Data → Prop) (id : NodeId) :
    Data → Prop where
  | list {ids : List NodeId} {xs : List Data} : nodes[id]? = some ⟨.seq, .seq ids⟩ →
    List.Forall₂ R ids xs → ShowsParts nodes R id (.list xs)
  | record {ids : List (NodeId × NodeId)} {entries : List (String × Data)} :
    nodes[id]? = some ⟨.map, .map ids⟩ → (entries.map (·.1)).Nodup →
      List.Forall₂ (fun kv e => nodes[kv.1]? = some (textNode e.1) ∧ R kv.2 e.2) ids entries →
        ShowsParts nodes R id (.record entries)

/-- A node shows data; `n` bounds how many collections are inside one another. -/
def Shows (nodes : Array Node) : Nat → NodeId → Data → Prop
  | 0, id, d => ∃ s, HasScalar nodes id s ∧ d = .scalar s
  | n + 1, id, d => (∃ s, HasScalar nodes id s ∧ d = .scalar s) ∨
    ShowsParts nodes (Shows nodes n) id d

theorem shows_scalar {s : Scalar} (h : HasScalar nodes id s) : Shows nodes n id (.scalar s) := by
  cases n with
  | zero => exact ⟨s, h, rfl⟩
  | succ n => exact .inl ⟨s, h, rfl⟩

theorem hasScalar_text {s : String} (h : nodes[id]? = some (textNode s)) :
    HasScalar nodes id (.str s) :=
  ⟨.str, s.toList, h, rfl, congrArg (fun s => Except.ok (Scalar.str s)) String.ofList_toList⟩

theorem shows_text {s : String} (h : nodes[id]? = some (textNode s)) :
    Shows nodes n id (.str s) := shows_scalar (hasScalar_text h)

/-- A node that has to wait for its parts. -/
def Collects (nodes : Array Node) (n : Nat) (id : NodeId) : Prop :=
  ∃ m d, n = m + 1 ∧ ShowsParts nodes (Shows nodes m) id d

theorem Shows.cases (h : Shows nodes n id d) : (∃ s, HasScalar nodes id s ∧ d = .scalar s) ∨
    ∃ m, n = m + 1 ∧ ShowsParts nodes (Shows nodes m) id d := by
  cases n with
  | zero => exact .inl h
  | succ n => exact h.imp_right fun h => ⟨n, rfl, h⟩

def keyAt (nodes : Array Node) (id : NodeId) : Scalar :=
  match (nodes.getD id .empty).content with
  | .scalar text => .str (String.ofList text)
  | _ => .null

/-- The value of a node; a scalar without one counts as null. -/
def valueAt (nodes : Array Node) (id : NodeId) : Value :=
  match nodes.getD id .empty with
  | ⟨tag, .scalar text⟩ => .scalar ((scalarValue tag text).toOption.getD .null)
  | _ => .collection id

/-- A collection with its parts. -/
def collectionAt (nodes : Array Node) (id : NodeId) : Collection :=
  match (nodes.getD id .empty).content with
  | .seq ids => .list (ids.map (valueAt nodes))
  | .map ids => .map (ids.map fun kv => (keyAt nodes kv.1, valueAt nodes kv.2))
  | .scalar _ => .list []

/-- The parts of a collection. -/
def partsAt (nodes : Array Node) (id : NodeId) : List NodeId :=
  match (nodes.getD id .empty).content with
  | .seq ids => ids
  | .map ids => ids.map (·.2)
  | .scalar _ => []

section At

variable {s : String} {node : Node}

theorem getD_eq (h : nodes[id]? = some node) : nodes.getD id .empty = node := by
  rw [Array.getD_eq_getD_getElem?, h, Option.getD_some]

theorem keyAt_text (h : nodes[id]? = some (textNode s)) : keyAt nodes id = .str s := by
  rw [keyAt, getD_eq h]
  exact congrArg Scalar.str String.ofList_toList

theorem valueAt_scalar {s : Scalar} (h : HasScalar nodes id s) : valueAt nodes id = .scalar s := by
  obtain ⟨tag, text, hnode, -, hvalue⟩ := h
  rw [valueAt, getD_eq hnode]
  dsimp only
  rw [hvalue]
  rfl

theorem ShowsParts.valueAt_eq {R : NodeId → Data → Prop} (h : ShowsParts nodes R id d) :
    valueAt nodes id = .collection id := by
  cases h with
  | list hnode => rw [valueAt, getD_eq hnode]
  | record hnode => rw [valueAt, getD_eq hnode]

theorem lt_size_of_getElem? {α : Type} {xs : Array α} {i : Nat} {x : α} (h : xs[i]? = some x) :
    i < xs.size := by
  by_contra hle
  rw [Array.getElem?_eq_none (by omega)] at h
  cases h

theorem Shows.lt_size (h : Shows nodes n id d) : id < nodes.size := by
  rcases h.cases with ⟨s, ⟨tag, text, hnode, -⟩, -⟩ | ⟨m, -, hparts⟩
  · exact lt_size_of_getElem? hnode
  · cases hparts with
    | list hnode => exact lt_size_of_getElem? hnode
    | record hnode => exact lt_size_of_getElem? hnode

end At

/-! ## Builders -/

/-- What a builder knows is right; all collections that were met have their parts, are waiting for
them, or are among those whose turn it is. -/
structure Builder.Sane (nodes : Array Node) (n : Nat) (turn : List NodeId) (b : Builder) :
    Prop where
  same_nodes : b.nodes = nodes
  values_size : b.values.size = nodes.size
  collections_size : b.collections.size = nodes.size
  values : ∀ id v, b.values.getD id none = some v → v = valueAt nodes id
  collections : ∀ id c, b.collections.getD id none = some c → c = collectionAt nodes id ∧
    ∀ part ∈ partsAt nodes id, b.values.getD part none = some (valueAt nodes part)
  met : ∀ id, b.values.getD id none = some (.collection id) →
    id ∈ b.waiting ∨ id ∈ turn ∨ (b.collections.getD id none).isSome
  waiting : ∀ id ∈ b.waiting, Collects nodes n id

/-- What was known stays so. -/
def Builder.Grows (b b' : Builder) : Prop :=
  ∀ id v, b.values.getD id none = some v → b'.values.getD id none = some v

namespace Build

variable {b b' : Builder} {turn : List NodeId}

theorem run_bind {α β : Type} {x : Build α} {f : α → Build β} {a : α} (h : x b = .ok (a, b')) :
    (x >>= f) b = f a b' := by
  change (x b >>= fun p => f p.1 p.2) = _
  rw [h]
  rfl

theorem run_get {α : Type} (f : Builder → Build α) : (get >>= f) b = f b b := rfl

theorem getD_setIfInBounds {α : Type} {xs : Array α} {i j : Nat} {x y : α} (hi : i < xs.size) :
    (xs.setIfInBounds i x).getD j y = if i = j then x else xs.getD j y := by
  rw [Array.getD_eq_getD_getElem?, Array.getElem?_setIfInBounds, Array.getD_eq_getD_getElem?]
  split
  · subst_vars
    simp
  · rfl

/-- A scalar that is met for the first time. -/
theorem valueOf_scalar {s : Scalar} (h : HasScalar b.nodes id s)
    (hnew : b.values.getD id none = none) : valueOf id b = .ok (.scalar s,
      { b with values := b.values.setIfInBounds id (some (.scalar s)) }) := by
  obtain ⟨tag, text, hnode, hscalar, hvalue⟩ := h
  have htag : b.tag id = tag := congrArg Node.tag (getD_eq hnode)
  have hentries : b.entries? id = none := by
    rw [Builder.entries?, Builder.node, getD_eq hnode]
  have hcollection : tag.isCollection = false := by
    cases tag <;> first | rfl | cases hscalar
  have htext : textOf b (b.nodes.size + 1) id = .ok text := by
    rw [textOf, Builder.node, getD_eq hnode]
  have hread : scalarOf b id = .ok s := by
    simp [scalarOf, htag, hscalar, htext, hentries, hvalue, bind, Except.bind]
  have hlift : (StateT.lift (Value.scalar <$> scalarOf b id) : Build Value) b =
      .ok (.scalar s, b) := by
    rw [hread]
    rfl
  unfold valueOf
  rw [run_get, hnew]
  dsimp only
  rw [htag, hcollection, if_neg Bool.false_ne_true, run_bind hlift]
  rfl

/-- A collection that is met for the first time has to wait. -/
theorem valueOf_collection {R : NodeId → Data → Prop} (h : ShowsParts b.nodes R id d)
    (hnew : b.values.getD id none = none) : valueOf id b = .ok (.collection id,
      { b with
        values := b.values.setIfInBounds id (some (.collection id))
        waiting := id :: b.waiting }) := by
  have htag : (b.tag id).isCollection := by
    cases h with
    | list hnode => exact congrArg (fun node => (Node.tag node).isCollection) (getD_eq hnode)
    | record hnode => exact congrArg (fun node => (Node.tag node).isCollection) (getD_eq hnode)
  unfold valueOf
  rw [run_get, hnew]
  dsimp only
  rw [htag]
  rfl

theorem grows_learn {v : Value} (hlt : id < b.values.size) (hnew : b.values.getD id none = none)
    (waiting : List NodeId) :
    b.Grows { b with values := b.values.setIfInBounds id (some v), waiting } := by
  intro j w hj
  change (b.values.setIfInBounds id (some v)).getD j none = some w
  rw [getD_setIfInBounds hlt]
  split
  · rename_i heq
    subst heq
    rw [hnew] at hj
    cases hj
  · exact hj

/-- A builder that learns the value of a node. -/
theorem Sane.learn (h : b.Sane nodes n turn) (hlt : id < b.values.size)
    (hnew : b.values.getD id none = none) {waiting : List NodeId} (hkeep : b.waiting ⊆ waiting)
    (hwaiting : ∀ j ∈ waiting, Collects nodes n j)
    (hmet : valueAt nodes id = .collection id → id ∈ waiting) :
    Builder.Sane nodes n turn
      { b with values := b.values.setIfInBounds id (some (valueAt nodes id)), waiting } := by
  have hgrows := grows_learn (v := valueAt nodes id) hlt hnew waiting
  refine ⟨h.same_nodes, ?_, h.collections_size, fun j v hj => ?_, fun j c hj => ?_, fun j hj => ?_,
    hwaiting⟩
  · exact Array.size_setIfInBounds.trans h.values_size
  · change (b.values.setIfInBounds id _).getD j none = some v at hj
    rw [getD_setIfInBounds hlt] at hj
    split at hj
    · rename_i heq
      subst heq
      exact (Option.some.inj hj).symm
    · exact h.values j v hj
  · obtain ⟨hc, hparts⟩ := h.collections j c hj
    exact ⟨hc, fun part hpart => hgrows _ _ (hparts part hpart)⟩
  · change (b.values.setIfInBounds id _).getD j none = some _ at hj
    rw [getD_setIfInBounds hlt] at hj
    split at hj
    · rename_i heq
      subst heq
      exact .inl (hmet (Option.some.inj hj))
    · exact (h.met j hj).imp_left fun hj => hkeep hj

/-- The value of a node that shows something. -/
theorem exists_valueOf (h : b.Sane nodes n turn) (hshows : Shows nodes n id d) :
    ∃ b', valueOf id b = .ok (valueAt nodes id, b') ∧ b'.Sane nodes n turn ∧ b.Grows b' ∧
      b'.values.getD id none = some (valueAt nodes id) := by
  cases hvalue : b.values.getD id none with
  | some v =>
    obtain rfl := h.values id v hvalue
    refine ⟨b, ?_, h, fun _ _ h => h, hvalue⟩
    unfold valueOf
    rw [run_get, hvalue]
    rfl
  | none =>
    have hlt : id < b.values.size := h.values_size ▸ hshows.lt_size
    have hself : (b.values.setIfInBounds id (some (valueAt nodes id))).getD id none =
        some (valueAt nodes id) := by
      rw [getD_setIfInBounds hlt, if_pos rfl]
    rcases hshows.cases with ⟨s, hscalar, -⟩ | ⟨m, hm, hparts⟩
    · have hat := valueAt_scalar hscalar
      have hsane := Sane.learn h hlt hvalue (List.Subset.refl _) h.waiting fun heq => by
        rw [hat] at heq
        cases heq
      rw [hat] at hsane hself ⊢
      exact ⟨_, valueOf_scalar (h.same_nodes ▸ hscalar) hvalue, hsane, grows_learn hlt hvalue _,
        hself⟩
    · have hat := hparts.valueAt_eq
      have hsane := Sane.learn h hlt hvalue (List.subset_cons_self id b.waiting)
        (List.forall_mem_cons.2 ⟨⟨m, d, hm, hparts⟩, h.waiting⟩) fun _ => List.mem_cons_self ..
      rw [hat] at hsane hself ⊢
      exact ⟨_, valueOf_collection (h.same_nodes ▸ hparts) hvalue, hsane,
        grows_learn hlt hvalue _, hself⟩

/-- The key of an entry. -/
theorem exists_keyOf {s : String} (h : b.Sane nodes n turn)
    (hnode : nodes[id]? = some (textNode s)) :
    ∃ b', keyOf id b = .ok (.str s, b') ∧ b'.Sane nodes n turn ∧ b.Grows b' := by
  obtain ⟨b', hvalue, hsane, hgrows, -⟩ := exists_valueOf h (shows_text hnode)
  rw [valueAt_scalar (hasScalar_text hnode)] at hvalue
  refine ⟨b', ?_, hsane, hgrows⟩
  rw [keyOf, run_bind hvalue]
  rfl

/-! ## Parts of collections -/

/-- The items of a list. -/
theorem exists_values {ids : List NodeId} {xs : List Data}
    (hitems : List.Forall₂ (Shows nodes n) ids xs) :
    ∀ {b : Builder}, b.Sane nodes n turn → ∃ b',
      (ids.mapM valueOf) b = .ok (ids.map (valueAt nodes), b') ∧ b'.Sane nodes n turn ∧
        b.Grows b' ∧ ∀ part ∈ ids, b'.values.getD part none = some (valueAt nodes part) := by
  induction hitems with
  | nil => exact fun h => ⟨_, rfl, h, fun _ _ h => h, fun _ h => absurd h List.not_mem_nil⟩
  | @cons id x ids xs hx _ ih =>
    intro b h
    obtain ⟨b₁, hvalue, hsane₁, hgrows₁, hknown⟩ := exists_valueOf h hx
    obtain ⟨b₂, hrest, hsane₂, hgrows₂, hknowns⟩ := ih hsane₁
    refine ⟨b₂, ?_, hsane₂, fun j v hj => hgrows₂ j v (hgrows₁ j v hj),
      List.forall_mem_cons.2 ⟨hgrows₂ _ _ hknown, hknowns⟩⟩
    rw [List.mapM_cons, run_bind hvalue, run_bind hrest]
    rfl

theorem flatten_eq {ids : List (NodeId × NodeId)} (hnode : b.nodes[id]? = some ⟨.map, .map ids⟩)
    (hkeys : ∀ kv ∈ ids, b.tag kv.1 = .str) : flatten id b = .ok ((), b) := by
  have hentries : b.entries? id = some ids := by
    rw [Builder.entries?, Builder.node, getD_eq hnode]
  have hplain : ∀ kv ∈ ids, b.isMerge kv = false := fun kv hkv => by
    rw [Builder.isMerge, hkeys kv hkv]
    rfl
  have hmerge : takeMerge b ids = none := by
    have hspan : ids.span (!b.isMerge ·) = (ids, []) := by
      rw [List.span_eq_takeWhile_dropWhile, List.takeWhile_eq_self_iff.2,
        List.dropWhile_eq_nil_iff.2]
      · exact fun kv hkv => by rw [hplain kv hkv]; rfl
      · exact fun kv hkv => by rw [hplain kv hkv]; rfl
    rw [takeMerge, hspan]
  have hsettle : ids.foldl (fun b kv => b.settleKey kv.1) b = b := by
    refine List.foldlRecOn ids _ (motive := fun b' => b' = b) rfl ?_
    rintro b' rfl kv hkv
    rw [Builder.settleKey, hkeys kv hkv]
    rfl
  have hmodify : (modify fun b => ids.foldl (fun b kv => b.settleKey kv.1) b : Build Unit) b =
      .ok ((), b) := congrArg (fun b => Except.ok ((), b)) hsettle
  unfold flatten
  rw [run_get, flattenFrom, run_get]
  dsimp only
  rw [hentries]
  dsimp only
  rw [hmerge]
  dsimp only
  rw [run_bind hmodify]
  rfl

/-- A mapping's entries as they are built. -/
def entryOf (kv : NodeId × NodeId) : Build (Scalar × Value) := do
  let key ← keyOf kv.1
  return (key, ← valueOf kv.2)

theorem exists_entries {ids : List (NodeId × NodeId)} {entries : List (String × Data)}
    (hentries : List.Forall₂ (fun kv e =>
      nodes[kv.1]? = some (textNode e.1) ∧ Shows nodes n kv.2 e.2) ids entries) :
    ∀ {b : Builder}, b.Sane nodes n turn → ∃ b',
      (ids.mapM entryOf) b = .ok (ids.map fun kv => (keyAt nodes kv.1, valueAt nodes kv.2), b') ∧
        b'.Sane nodes n turn ∧ b.Grows b' ∧
          ∀ kv ∈ ids, b'.values.getD kv.2 none = some (valueAt nodes kv.2) := by
  induction hentries with
  | nil => exact fun h => ⟨_, rfl, h, fun _ _ h => h, fun _ h => absurd h List.not_mem_nil⟩
  | @cons kv e ids entries he _ ih =>
    intro b h
    obtain ⟨b₁, hkey, hsane₁, hgrows₁⟩ := exists_keyOf h he.1
    obtain ⟨b₂, hvalue, hsane₂, hgrows₂, hknown⟩ := exists_valueOf hsane₁ he.2
    obtain ⟨b₃, hrest, hsane₃, hgrows₃, hknowns⟩ := ih hsane₂
    have hentry : entryOf kv b = .ok ((keyAt nodes kv.1, valueAt nodes kv.2), b₂) := by
      rw [entryOf, run_bind hkey, run_bind hvalue, keyAt_text he.1]
      rfl
    refine ⟨b₃, ?_, hsane₃, fun j v hj => hgrows₃ j v (hgrows₂ j v (hgrows₁ j v hj)),
      List.forall_mem_cons.2 ⟨hgrows₃ _ _ hknown, hknowns⟩⟩
    rw [List.mapM_cons, run_bind hentry, run_bind hrest]
    rfl

theorem exists_of_mem_left {α β : Type} {R : α → β → Prop} {x : α} {xs : List α} {ys : List β}
    (h : List.Forall₂ R xs ys) (hx : x ∈ xs) : ∃ y ∈ ys, R x y := by
  induction h with
  | nil => exact absurd hx List.not_mem_nil
  | @cons a b as bs hab _ ih =>
    rcases List.mem_cons.1 hx with rfl | hx
    · exact ⟨b, List.mem_cons_self .., hab⟩
    · obtain ⟨y, hy, hxy⟩ := ih hx
      exact ⟨y, List.mem_cons_of_mem _ hy, hxy⟩

theorem map_eq_map_of_forall₂ {α β γ : Type} {R : α → β → Prop} {f : α → γ} {g : β → γ}
    {xs : List α} {ys : List β} (hfg : ∀ x y, R x y → f x = g y) (h : List.Forall₂ R xs ys) :
    xs.map f = ys.map g := by
  rw [← List.forall₂_eq_eq_eq, List.forall₂_map_left_iff, List.forall₂_map_right_iff]
  exact h.imp hfg

/-- The entries of a mapping. -/
theorem exists_entriesOf {ids : List (NodeId × NodeId)} {entries : List (String × Data)}
    (h : b.Sane nodes n turn) (hnode : nodes[id]? = some ⟨.map, .map ids⟩)
    (hnodup : (entries.map (·.1)).Nodup)
    (hentries : List.Forall₂ (fun kv e =>
      nodes[kv.1]? = some (textNode e.1) ∧ Shows nodes n kv.2 e.2) ids entries) :
    ∃ b', entriesOf id b =
        .ok (ids.map fun kv => (keyAt nodes kv.1, valueAt nodes kv.2), b') ∧
      b'.Sane nodes n turn ∧ b.Grows b' ∧
        ∀ kv ∈ ids, b'.values.getD kv.2 none = some (valueAt nodes kv.2) := by
  obtain ⟨b', hbuild, hafter⟩ := exists_entries hentries h
  have hnode' : b.nodes[id]? = some ⟨.map, .map ids⟩ := h.same_nodes ▸ hnode
  have hids : b.entries? id = some ids := by
    rw [Builder.entries?, Builder.node, getD_eq hnode']
  have hkeys : ∀ kv ∈ ids, b.tag kv.1 = .str := by
    intro kv hkv
    obtain ⟨e, -, hkey, -⟩ := exists_of_mem_left hentries hkv
    exact congrArg Node.tag (getD_eq (h.same_nodes ▸ hkey))
  have hnames : ids.map (fun kv => keyAt nodes kv.1) = entries.map fun e => .str e.1 :=
    map_eq_map_of_forall₂ (fun _ _ he => keyAt_text he.1) hentries
  have hdedup : dedupEntries (ids.map fun kv => (keyAt nodes kv.1, valueAt nodes kv.2)) =
      ids.map fun kv => (keyAt nodes kv.1, valueAt nodes kv.2) := by
    have hdistinct : (entries.map fun e => Scalar.str e.1).Pairwise fun a b => (a == b) = false :=
      List.pairwise_map.2 ((List.pairwise_map.1 hnodup).imp fun hne => beq_false_of_ne hne)
    rw [← hnames] at hdistinct
    exact dedupEntries_eq_self (List.pairwise_map.2 (List.pairwise_map.1 hdistinct))
  refine ⟨b', ?_, hafter⟩
  rw [entriesOf, run_bind (flatten_eq hnode' hkeys), run_get, hids]
  change ((ids.mapM entryOf) >>= fun entries => pure (dedupEntries entries)) b = _
  rw [run_bind hbuild, hdedup]
  rfl

/-! ## Rounds -/

/-- A collection gets its parts. -/
theorem Sane.settle (h : b.Sane nodes n (id :: turn)) (hlt : id < nodes.size)
    (hknown : ∀ part ∈ partsAt nodes id, b.values.getD part none = some (valueAt nodes part)) :
    Builder.Sane nodes n turn
      { b with collections := b.collections.setIfInBounds id (some (collectionAt nodes id)) } := by
  have hlt : id < b.collections.size := h.collections_size ▸ hlt
  refine ⟨h.same_nodes, h.values_size, Array.size_setIfInBounds.trans h.collections_size, h.values,
    fun j c hj => ?_, fun j hj => ?_, h.waiting⟩
  · change (b.collections.setIfInBounds id _).getD j none = some c at hj
    rw [getD_setIfInBounds hlt] at hj
    split at hj
    · rename_i heq
      subst heq
      exact ⟨(Option.some.inj hj).symm, hknown⟩
    · exact h.collections j c hj
  · change j ∈ b.waiting ∨ j ∈ turn ∨ ((b.collections.setIfInBounds id _).getD j none).isSome
    rw [getD_setIfInBounds hlt]
    by_cases heq : id = j
    · exact .inr (.inr (by rw [if_pos heq]; rfl))
    · rw [if_neg heq]
      refine (h.met j hj).imp_right fun hturn => hturn.imp_left fun hmem => ?_
      exact (List.mem_cons.1 hmem).resolve_left (Ne.symm heq)

/-- A collection whose turn it is gets its parts. -/
theorem exists_finish (h : b.Sane nodes n (id :: turn))
    (hshows : ShowsParts nodes (Shows nodes n) id d) :
    ∃ b', finish id b = .ok ((), b') ∧ b'.Sane nodes n turn ∧ b.Grows b' := by
  cases hshows with
  | @list ids xs hnode hitems =>
    obtain ⟨b₁, hbuild, hsane, hgrows, hknown⟩ := exists_values hitems h
    have hparts : partsAt nodes id = ids := by rw [partsAt, getD_eq hnode]
    have hcollection : collectionAt nodes id = .list (ids.map (valueAt nodes)) := by
      rw [collectionAt, getD_eq hnode]
    refine ⟨_, ?_, Sane.settle hsane (lt_size_of_getElem? hnode) (hparts ▸ hknown), hgrows⟩
    have hnode' : b.node id = ⟨.seq, .seq ids⟩ := getD_eq (h.same_nodes ▸ hnode)
    have hlisted : (Collection.list <$> ids.mapM valueOf) b = .ok (collectionAt nodes id, b₁) := by
      rw [map_eq_pure_bind, run_bind hbuild, hcollection]
      rfl
    rw [finish, run_get]
    dsimp only
    rw [hnode']
    dsimp only
    rw [run_bind hlisted]
    rfl
  | @record ids entries hnode hnodup hentries =>
    obtain ⟨b₁, hbuild, hsane, hgrows, hknown⟩ := exists_entriesOf h hnode hnodup hentries
    have hparts : partsAt nodes id = ids.map (·.2) := by rw [partsAt, getD_eq hnode]
    have hcollection : collectionAt nodes id =
        .map (ids.map fun kv => (keyAt nodes kv.1, valueAt nodes kv.2)) := by
      rw [collectionAt, getD_eq hnode]
    refine ⟨_, ?_, Sane.settle hsane (lt_size_of_getElem? hnode)
      (hparts ▸ List.forall_mem_map.2 hknown), hgrows⟩
    have hnode' : b.node id = ⟨.map, .map ids⟩ := getD_eq (h.same_nodes ▸ hnode)
    have hmapped : (Collection.map <$> entriesOf id) b = .ok (collectionAt nodes id, b₁) := by
      rw [map_eq_pure_bind, run_bind hbuild, hcollection]
      rfl
    rw [finish, run_get]
    dsimp only
    rw [hnode']
    dsimp only
    rw [run_bind hmapped]
    rfl

/-- All collections whose turn it is get their parts. -/
theorem exists_finishRound : ∀ {turn : List NodeId} {b : Builder}, b.Sane nodes n turn →
    (∀ id ∈ turn, ∃ d, ShowsParts nodes (Shows nodes n) id d) →
      ∃ b', (turn.forM finish) b = .ok ((), b') ∧ b'.Sane nodes n [] ∧ b.Grows b'
  | [], b, h, _ => ⟨b, rfl, h, fun _ _ h => h⟩
  | id :: turn, b, h, hturn => by
    obtain ⟨⟨d, hshows⟩, hturn⟩ := List.forall_mem_cons.1 hturn
    obtain ⟨b₁, hfinish, hsane₁, hgrows₁⟩ := exists_finish h hshows
    obtain ⟨b₂, hrest, hsane₂, hgrows₂⟩ := exists_finishRound hsane₁ hturn
    refine ⟨b₂, ?_, hsane₂, fun j v hj => hgrows₂ j v (hgrows₁ j v hj)⟩
    change (finish id >>= fun _ => turn.forM finish) b = _
    rw [run_bind hfinish, hrest]

/-- After enough rounds nothing is waiting. -/
theorem exists_finishAll : ∀ {fuel n : Nat} {b : Builder}, b.Sane nodes n [] → n < fuel →
    ∃ b' n', finishAll fuel b = .ok ((), b') ∧ b'.Sane nodes n' [] ∧ b'.waiting = [] ∧ b.Grows b'
  | 0, _, _, _, hfuel => absurd hfuel (Nat.not_lt_zero _)
  | fuel + 1, n, b, h, hfuel => by
    cases hwaiting : b.waiting with
    | nil =>
      refine ⟨b, n, ?_, h, hwaiting, fun _ _ h => h⟩
      rw [finishAll, run_get, hwaiting]
      rfl
    | cons id rest =>
      obtain ⟨m, -, rfl, -⟩ := h.waiting id (hwaiting ▸ List.mem_cons_self ..)
      have hturn : Builder.Sane nodes m b.waiting.reverse { b with waiting := [] } :=
        ⟨h.same_nodes, h.values_size, h.collections_size, h.values, h.collections, fun j hj =>
          .inr ((h.met j hj).imp List.mem_reverse.2 fun hrest =>
            hrest.resolve_left List.not_mem_nil), fun j hj => absurd hj List.not_mem_nil⟩
      have hround : ∀ j ∈ b.waiting.reverse, ∃ d, ShowsParts nodes (Shows nodes m) j d := by
        intro j hj
        obtain ⟨_, d, heq, hparts⟩ := h.waiting j (List.mem_reverse.1 hj)
        cases heq
        exact ⟨d, hparts⟩
      obtain ⟨b₁, hround, hsane₁, hgrows₁⟩ := exists_finishRound hturn hround
      obtain ⟨b₂, n', hrest, hsane₂, hnone, hgrows₂⟩ :=
        exists_finishAll hsane₁ (Nat.lt_of_succ_lt_succ hfuel)
      refine ⟨b₂, n', ?_, hsane₂, hnone, fun j v hj => hgrows₂ j v (hgrows₁ j v hj)⟩
      have hmodify : (modify ({ · with waiting := [] }) : Build Unit) b =
          .ok ((), { b with waiting := [] }) := rfl
      have hnonempty : b.waiting.reverse.isEmpty = false := by simp [hwaiting]
      rw [finishAll, run_get, hnonempty]
      change ((modify ({ · with waiting := [] }) : Build Unit) >>= fun _ =>
        b.waiting.reverse.forM finish >>= fun _ => finishAll fuel) b = _
      rw [run_bind hmodify, run_bind hround, hrest]

/-! ## Data -/

theorem getD_dataTable {collections : Array (Option Collection)} {c : Collection} {depth : Nat}
    (h : collections.getD id none = some c) :
    (dataTable collections (depth + 1)).getD id .null = c.data (dataTable collections depth) := by
  have hget : collections[id]? = some (some c) := by
    rw [Array.getD_eq_getD_getElem?] at h
    cases hget : collections[id]? with
    | none =>
      rw [hget] at h
      cases h
    | some c? =>
      rw [hget] at h
      exact congrArg some h
  rw [dataTable, Array.getD_eq_getD_getElem?, Array.getElem?_map, hget]
  rfl

/-- What a builder without anything waiting knows is the data that the nodes show. -/
theorem data_valueAt {m : Nat} (h : b.Sane nodes m []) (hnone : b.waiting = []) :
    ∀ {n depth : Nat} {id : NodeId} {d : Data}, Shows nodes n id d → n ≤ depth →
      b.values.getD id none = some (valueAt nodes id) →
        (valueAt nodes id).data (dataTable b.collections depth) = d := by
  intro n
  induction n with
  | zero =>
    rintro depth id d ⟨s, hscalar, rfl⟩ - -
    rw [valueAt_scalar hscalar]
    rfl
  | succ n ih =>
    rintro depth id d (⟨s, hscalar, rfl⟩ | hparts) hdepth hknown
    · rw [valueAt_scalar hscalar]
      rfl
    obtain ⟨depth, rfl⟩ : ∃ depth', depth = depth' + 1 := ⟨depth - 1, by omega⟩
    have hdepth := Nat.le_of_succ_le_succ hdepth
    rw [hparts.valueAt_eq] at hknown ⊢
    obtain ⟨c, hc⟩ : ∃ c, b.collections.getD id none = some c := by
      rcases h.met id hknown with hmem | hmem | hsome
      · rw [hnone] at hmem
        exact absurd hmem List.not_mem_nil
      · exact absurd hmem List.not_mem_nil
      · exact Option.isSome_iff_exists.1 hsome
    obtain ⟨rfl, hall⟩ := h.collections id c hc
    rw [Value.data, getD_dataTable hc]
    cases hparts with
    | @list ids xs hnode hitems =>
      rw [partsAt, getD_eq hnode] at hall
      rw [collectionAt, getD_eq hnode]
      dsimp only
      rw [Collection.data, List.map_map, ← List.map_id xs]
      refine congrArg Data.list (map_eq_map_of_forall₂ (fun id x hx => hx) ?_)
      refine ((List.forall₂_and_left _ _).2 ⟨fun part hpart => hpart, hitems⟩).imp ?_
      rintro part x ⟨hpart, hx⟩
      exact ih hx hdepth (hall part hpart)
    | @record ids entries hnode hnodup hentries =>
      rw [partsAt, getD_eq hnode] at hall
      rw [collectionAt, getD_eq hnode]
      dsimp only
      rw [Collection.data, List.map_map]
      refine congrArg Data.map (map_eq_map_of_forall₂ (fun kv e he => he) ?_)
      refine ((List.forall₂_and_left _ _).2 ⟨fun kv hkv => hkv, hentries⟩).imp ?_
      rintro kv e ⟨hkv, he⟩
      exact Prod.ext (keyAt_text he.1) (ih he.2 hdepth (hall _ (List.mem_map_of_mem hkv)))

end Build

/-- The data of a document is what its root shows. -/
theorem data_of_shows {doc : Document} (h : Shows doc.nodes n doc.root d)
    (hsize : n ≤ doc.nodes.size) (hlevels : n ≤ maxLevels) : doc.data = .ok d := by
  have hnew : ∀ {α : Type} (id : NodeId),
      (Array.replicate doc.nodes.size (none : Option α)).getD id none = none := fun id => by
    rw [Array.getD_eq_getD_getElem?, Array.getElem?_replicate]
    split <;> rfl
  have hstart : Builder.Sane doc.nodes n []
      { nodes := doc.nodes, values := Array.replicate doc.nodes.size none,
        collections := Array.replicate doc.nodes.size none } := by
    refine ⟨rfl, Array.size_replicate, Array.size_replicate, fun id v hv => ?_, fun id c hc => ?_,
      fun id hv => ?_, fun id hid => absurd hid List.not_mem_nil⟩
    · rw [hnew] at hv
      cases hv
    · rw [hnew] at hc
      cases hc
    · rw [hnew] at hv
      cases hv
  obtain ⟨b₁, hroot, hsane₁, -, hknown⟩ := Build.exists_valueOf hstart h
  obtain ⟨b₂, n', hall, hsane₂, hnone, hgrows⟩ :=
    Build.exists_finishAll hsane₁ (Nat.lt_succ_of_le hsize)
  have hdata := Build.data_valueAt hsane₂ hnone h hlevels (hgrows _ _ hknown)
  have hrun : (Build.valueOf doc.root >>= fun v => Build.finishAll (doc.nodes.size + 1) >>= fun _ =>
      pure v : Build Value)
        { nodes := doc.nodes, values := Array.replicate doc.nodes.size none,
          collections := Array.replicate doc.nodes.size none } =
            .ok (valueAt doc.nodes doc.root, b₂) := by
    rw [Build.run_bind hroot, Build.run_bind hall]
    rfl
  rw [Document.data, StateT.run, hrun]
  exact congrArg Except.ok hdata

end StackCompiler.Yaml
