import StackCompiler.Machine
import StackCompiler.Proofs.Session

/-!
# Running actions

What the actions on files do to a machine, which of them only read it, and `Machine.Yields`: an
action that always succeeds, with a result of some kind, and writes no file. An action that
`Machine.Leaves` a file may fail half-way, but never changes that file.
-/

namespace StackCompiler

open Session

namespace Machine

/-- An action that always succeeds, with a result that has a property, and writes no file. -/
def Yields {α : Type} (x : Action α) (P : α → Prop) : Prop :=
  ∀ t, ∃ a t', x.exec t = (.ok a, t') ∧ P a ∧ t'.state.tree = t.state.tree

section

variable {α β : Type} {P : α → Prop} {Q : β → Prop} {x : Action α} {f : α → Action β}

theorem yields_pure {a : α} (h : P a) : Yields (pure a) P := fun t => ⟨a, t, rfl, h, rfl⟩

theorem Yields.bind (hx : Yields x P) (hf : ∀ a, P a → Yields (f a) Q) : Yields (x >>= f) Q := by
  intro t
  obtain ⟨a, t₁, hx, ha, htree₁⟩ := hx t
  obtain ⟨b, t₂, hf, hb, htree₂⟩ := hf a ha t₁
  exact ⟨b, t₂, by rw [exec_bind_of_ok hx, hf], hb, htree₂.trans htree₁⟩

theorem Yields.mono {P' : α → Prop} (hx : Yields x P) (h : ∀ a, P a → P' a) : Yields x P' := by
  intro t
  obtain ⟨a, t', hexec, ha, htree⟩ := hx t
  exact ⟨a, t', hexec, h a ha, htree⟩

/-- An invariant of a fold that keeps track of the items that were passed. -/
theorem yields_foldlM (Inv : List α → β → Prop) {g : β → α → Action β} {all : List α}
    (hstep : ∀ done b a, a ∈ all → Inv done b → Yields (g b a) (Inv (done ++ [a]))) :
    ∀ {as : List α} {b : β}, as ⊆ all → ∀ done, Inv done b → Yields (as.foldlM g b) (Inv (done ++ as))
  | [], b, _, done, hb => by
    rw [List.append_nil]
    exact yields_pure hb
  | a :: as, b, has, done, hb => by
    obtain ⟨ha, has⟩ := List.cons_subset.1 has
    refine (hstep done b a ha hb).bind fun b' hb' => ?_
    rw [List.append_cons]
    exact yields_foldlM Inv hstep has _ hb'

theorem exec_state (t : Trail Machine) : (Session.state : Action Machine).exec t = (.ok t.state, t) :=
  rfl

theorem exec_currentTree (t : Trail Machine) : currentTree.exec t = (.ok t.state.tree, t) := rfl

theorem exec_exists? (p : Path) (t : Trail Machine) :
    (exists? p).exec t = (t.state.tree.contains p, t) := by
  rw [exists?, exec_bind_of_ok (exec_currentTree t), exec_ofExcept]

theorem exec_read (p : Path) (t : Trail Machine) :
    (Machine.read p).exec t = (t.state.tree.read p, t) := by
  rw [Machine.read, exec_bind_of_ok (exec_currentTree t), exec_ofExcept]

/-- A change that fails leaves the tree as it was. -/
theorem exec_changeTree (f : Tree → Except Failure Tree) (t : Trail Machine) :
    (changeTree f).exec t = match f t.state.tree with
      | .ok tree => (.ok (), { t with state := { t.state with tree } })
      | .error e => (.error e, t) := by
  rw [changeTree, exec_bind_of_ok (exec_state t), exec_bind, exec_ofExcept]
  cases f t.state.tree <;> rfl

theorem reads_exists? (p : Path) : Reads (exists? p) := by
  intro t
  rw [runFrom_eq, exec_exists?, exec_exists?]
  exact ⟨t.log, rfl⟩

theorem reads_read (p : Path) : Reads (Machine.read p) := by
  intro t
  rw [runFrom_eq, exec_read, exec_read]
  exact ⟨t.log, rfl⟩

theorem blind_choose : Blind choose := by
  rintro ⟨m, log⟩ ⟨_, log'⟩ rfl
  exact ⟨rfl, rfl⟩

theorem blind_changeTree (f : Tree → Except Failure Tree) : Blind (changeTree f) := by
  rintro ⟨m, log⟩ ⟨_, log'⟩ rfl
  rw [exec_changeTree, exec_changeTree]
  cases f m.tree <;> exact ⟨rfl, rfl⟩

theorem yields_choose : Yields choose fun _ => True :=
  fun t => ⟨t.state.choices t.state.taken, _, rfl, trivial, rfl⟩

end

/-! ## Files that stay -/

/-- Whatever comes of the action, the file at a place is as it was. -/
def Leaves {α : Type} (q : Place) (x : Action α) : Prop :=
  ∀ t, (x.exec t).2.state.tree.file? q = t.state.tree.file? q

section

variable {α β : Type} {q : Place} {x : Action α} {f : α → Action β}

theorem leaves_pure (a : α) : Leaves q (pure a) := fun _ => rfl

theorem leaves_note (r : Log.Record) : Leaves q (note r) := fun _ => rfl

theorem leaves_changeTree {f : Tree → Except Failure Tree}
    (h : ∀ tree tree', f tree = .ok tree' → tree'.file? q = tree.file? q) :
    Leaves q (changeTree f) := by
  intro t
  rw [exec_changeTree]
  cases hf : f t.state.tree with
  | error e => rfl
  | ok tree => exact h _ _ hf

theorem Leaves.bind (hx : Leaves q x) (hf : ∀ a, Leaves q (f a)) : Leaves q (x >>= f) := by
  intro t
  have hfirst := hx t
  rw [exec_bind]
  rcases hexec : x.exec t with ⟨result, t'⟩
  rw [hexec] at hfirst
  cases result with
  | error e => exact hfirst
  | ok a => exact (hf a t').trans hfirst

theorem leaves_forM {γ : Type} {g : γ → Action Unit} : ∀ {items : List γ},
    (∀ item ∈ items, Leaves q (g item)) → Leaves q (items.forM g)
  | [], _ => leaves_pure ()
  | item :: items, h => by
    obtain ⟨hitem, hitems⟩ := List.forall_mem_cons.1 h
    exact hitem.bind fun _ => leaves_forM hitems

end

end Machine

end StackCompiler
