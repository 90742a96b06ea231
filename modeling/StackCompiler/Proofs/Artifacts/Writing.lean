import StackCompiler.Artifacts
import StackCompiler.Proofs.Files.Tree
import StackCompiler.Proofs.Machine

/-!
# What writing does

Writing artifacts does to the file tree what placing their files one after another does
(`Artifacts.changes_files`), and fails where that fails. A file that was placed has its text.
-/

namespace StackCompiler

open Session

namespace Machine

/-- The action does to the tree what the function does, and fails where the function fails. -/
structure Changes (x : Action Unit) (f : Tree → Except Failure Tree) : Prop where
  ok : ∀ t tree, f t.state.tree = .ok tree →
    ∃ t', x.exec t = (.ok (), t') ∧ t'.state.tree = tree
  error : ∀ t e, f t.state.tree = .error e → ∃ t', x.exec t = (.error e, t')

variable {x y : Action Unit} {f g : Tree → Except Failure Tree}

theorem changes_pure : Changes (pure ()) .ok where
  ok t _ htree := ⟨t, rfl, Except.ok.inj htree⟩
  error _ _ h := nomatch h

theorem changes_note (r : Log.Record) : Changes (note r) .ok where
  ok _ _ htree := ⟨_, rfl, Except.ok.inj htree⟩
  error _ _ h := nomatch h

theorem changes_changeTree (f : Tree → Except Failure Tree) : Changes (changeTree f) f where
  ok t tree htree := ⟨_, by rw [exec_changeTree, htree], rfl⟩
  error t e h := ⟨t, by rw [exec_changeTree, h]⟩

theorem Changes.bind (hx : Changes x f) (hy : Changes y g) :
    Changes (x >>= fun _ => y) fun tree => f tree >>= g where
  ok t tree htree := by
    obtain ⟨tree₁, hf, hg⟩ := bind_eq_ok.1 htree
    obtain ⟨t₁, hexec₁, rfl⟩ := hx.ok t tree₁ hf
    obtain ⟨t₂, hexec₂, htree₂⟩ := hy.ok t₁ tree hg
    exact ⟨t₂, (exec_bind_of_ok hexec₁).trans hexec₂, htree₂⟩
  error t e h := by
    cases hf : f t.state.tree with
    | error e' =>
      rw [hf] at h
      obtain ⟨t₁, hexec₁⟩ := hx.error t e' hf
      exact ⟨t₁, Except.error.inj h ▸ exec_bind_of_error hexec₁⟩
    | ok tree =>
      rw [hf] at h
      obtain ⟨t₁, hexec₁, rfl⟩ := hx.ok t tree hf
      obtain ⟨t₂, hexec₂⟩ := hy.error t₁ e h
      exact ⟨t₂, (exec_bind_of_ok hexec₁).trans hexec₂⟩

theorem changes_ite {c : Prop} [Decidable c] (hx : Changes x f) (hy : Changes y g) :
    Changes (if c then x else y) fun tree => if c then f tree else g tree := by
  by_cases hc : c
  · simpa only [if_pos hc] using hx
  · simpa only [if_neg hc] using hy

end Machine

namespace Artifacts

open Machine (Changes)

/-! ## Placing files -/

/-- The tree with a file in its place, below directories that are made where they are missing. -/
def Output.placeIn (o : Output) (tree : Tree) : Except Failure Tree := do
  let tree ← (← tree.makeDirectory o.path.parent).write o.path o.text
  if o.mode ≠ .everyone then tree.setMode o.path o.mode else return tree

/-- The tree with all files in their places. -/
def placeAll (files : List Output) (tree : Tree) : Except Failure Tree :=
  files.foldlM (fun tree o => o.placeIn tree) tree

variable {o : Output} {tree tree' : Tree}

theorem Output.holds_of_placeIn (h : o.placeIn tree = .ok tree') : tree'.Holds o.path o.text := by
  obtain ⟨tree₁, -, h⟩ := bind_eq_ok.1 h
  obtain ⟨tree₂, hwrite, h⟩ := bind_eq_ok.1 h
  have hwritten := Tree.holds_of_write hwrite
  by_cases hmode : o.mode ≠ .everyone
  · rw [if_pos hmode] at h
    obtain ⟨tree₃, hset, hholds⟩ := hwritten.setMode o.mode
    rw [hset] at h
    exact Except.ok.inj h ▸ hholds
  · rw [if_neg hmode] at h
    exact Except.ok.inj h ▸ hwritten

theorem holds_of_placeAll {others : List Output}
    (h : placeAll (others ++ [o]) tree = .ok tree') : tree'.Holds o.path o.text := by
  rw [placeAll, List.foldlM_append] at h
  obtain ⟨tree₁, -, h⟩ := bind_eq_ok.1 h
  rw [List.foldlM_cons] at h
  obtain ⟨tree₂, hplace, h⟩ := bind_eq_ok.1 h
  exact Except.ok.inj h ▸ Output.holds_of_placeIn hplace

/-! ## Writing files -/

theorem changes_writeOutput (o : Output) : Changes (writeOutput o) o.placeIn := by
  have hmode : Changes (if o.mode ≠ .everyone then Machine.setMode o.path o.mode else pure ())
      fun tree => if o.mode ≠ .everyone then tree.setMode o.path o.mode else .ok tree :=
    Machine.changes_ite (Machine.changes_changeTree _) Machine.changes_pure
  have hchanges := (Machine.changes_changeTree (·.makeDirectory o.path.parent)).bind
    ((Machine.changes_changeTree (·.write o.path o.text)).bind
      (hmode.bind (Machine.changes_note
        ⟨.debug, "stackgen.services.compiler_service", s!"Wrote {o.name} to {o.path.text}", none,
          none, none⟩)))
  convert hchanges using 1
  · unfold writeOutput
    split <;> rfl
  · funext tree
    have hend : ∀ x : Except Failure Tree, (x >>= Except.ok) = x := bind_pure
    simp only [hend]
    rfl

theorem changes_files : ∀ files : List Output, Changes (files.forM writeOutput) (placeAll files)
  | [] => Machine.changes_pure
  | o :: files => by
    rw [List.forM_eq_forM, List.forM_cons, ← List.forM_eq_forM]
    exact (changes_writeOutput o).bind (changes_files files)

variable {a : Artifacts} {realm : String} {directory : Path} {t t' : Trail Machine}
  {files : List (String × Path)}

/-- Artifacts are written where their files can be placed. -/
theorem exists_write (h : placeAll (a.outputs realm directory) t.state.tree = .ok tree) :
    ∃ files t', (write realm directory a).exec t = (.ok files, t') ∧ t'.state.tree = tree := by
  obtain ⟨t', hexec, htree⟩ := (changes_files _).ok t tree h
  exact ⟨_, t', exec_bind_of_ok hexec, htree⟩

theorem placeAll_of_write (h : (write realm directory a).exec t = (.ok files, t')) :
    placeAll (a.outputs realm directory) t.state.tree = .ok t'.state.tree := by
  obtain ⟨_, t₁, hexec, hend⟩ := exec_bind_eq_ok_iff.1 h
  rw [← (Prod.mk.inj hend).2]
  cases hplaced : placeAll (a.outputs realm directory) t.state.tree with
  | error e =>
    obtain ⟨t₂, herror⟩ := (changes_files _).error t e hplaced
    cases (Prod.mk.inj (hexec.symm.trans herror)).1
  | ok tree =>
    obtain ⟨t₂, hok, rfl⟩ := (changes_files _).ok t tree hplaced
    rw [(Prod.mk.inj (hexec.symm.trans hok)).2]

end Artifacts

end StackCompiler
