import StackCompiler.Proofs.Files.Tree
import StackCompiler.Proofs.Machine

/-!
# What others see of a file tree

`Tree.masked` is a tree without the texts of the files that only their owner may read. Two actions
are alike (`Machine.Alike`) if they have the same result and make the same of that tree. Writing
different texts to a file is not alike, but doing so and closing the file to others is
(`Machine.alike_write_closed`), because that never fails after a text was written.
-/

namespace StackCompiler

/-! ## Masked trees -/

/-- The file as it is seen by others than its owner. -/
def File.masked (f : File) : File := if f.mode = .ownerOnly then { f with text := "" } else f

@[simp] theorem File.mode_masked (f : File) : f.masked.mode = f.mode := by
  unfold masked
  split <;> rfl

theorem File.masked_of_ne {f : File} (h : f.mode ≠ .ownerOnly) : f.masked = f := if_neg h

namespace Tree

variable {t u : Tree} {p : Path} {place : Place} {f : File} {text text' : String}

/-- The tree as it is seen by others than its owner. -/
def masked (t : Tree) : Tree := { t with files := t.files.map fun e => (e.1, e.2.masked) }

theorem file?_masked : t.masked.file? place = (t.file? place).map File.masked := lookup_map_snd

theorem isPresent_masked : t.masked.isPresent place = t.isPresent place := by
  rw [isPresent, file?_masked, Option.isSome_map]
  rfl

theorem walk_masked : t.masked.walk p = t.walk p := by
  have henter : t.masked.enter p = t.enter p := by
    funext place name
    rw [enter, file?_masked, Option.isSome_map]
    rfl
  rw [walk, henter]
  rfl

theorem masked_setFile : (t.setFile place f).masked = t.masked.setFile place f.masked := by
  rw [masked, setFile, setFile, map_setEntry]
  rfl

/-! ## Operations -/

theorem makeOne_masked : t.masked.makeOne p = (t.makeOne p).map masked := by
  rw [makeOne, makeOne, walk_masked]
  cases t.walk p with
  | error e => rfl
  | ok place =>
    change (if t.masked.isPresent place then _ else _) = Except.map _ (if t.isPresent place then _ else _)
    rw [isPresent_masked]
    split <;> rfl

theorem makeOneOrKeep_masked : t.masked.makeOneOrKeep p = (t.makeOneOrKeep p).map masked := by
  rw [makeOneOrKeep, makeOneOrKeep, makeOne_masked]
  cases t.makeOne p with
  | ok made => rfl
  | error e =>
    dsimp only [Except.map]
    rw [walk_masked]
    cases t.walk p with
    | error e' => rfl
    | ok place =>
      change (if t.isDirectory place then _ else _) = Except.map _ (if t.isDirectory place then _ else _)
      split <;> rfl

theorem makeAll_masked : ∀ (n : Nat) (t : Tree) (p : Path),
    makeAll n t.masked p = (makeAll n t p).map masked
  | 0, _, _ => makeOneOrKeep_masked
  | n + 1, t, p => by
    rw [makeAll, makeAll, makeOneOrKeep_masked]
    cases t.makeOneOrKeep p with
    | ok made => rfl
    | error e =>
      cases e with
      | noSuchFile path =>
        change (makeAll n t.masked p.parent).bind (·.makeOneOrKeep p) =
          ((makeAll n t p.parent).bind (·.makeOneOrKeep p)).map masked
        rw [makeAll_masked n]
        cases makeAll n t p.parent with
        | error e => rfl
        | ok above => exact makeOneOrKeep_masked
      | _ => rfl

theorem makeDirectory_masked : t.masked.makeDirectory p = (t.makeDirectory p).map masked :=
  makeAll_masked ..

/-! ## Trees that look alike -/

section

variable (h : t.masked = u.masked)

include h

theorem walk_eq_of_masked (p : Path) : t.walk p = u.walk p := by
  rw [← walk_masked, h, walk_masked]

theorem isDirectory_eq_of_masked (place : Place) : t.isDirectory place = u.isDirectory place := by
  have hdirectories : t.directories = u.directories := by simpa [masked] using (Tree.mk.inj h).2
  unfold isDirectory
  rw [hdirectories]

theorem mode_eq_of_masked (place : Place) :
    (t.file? place).map (·.mode) = (u.file? place).map (·.mode) := by
  have hmodes : ∀ v : Tree, (v.masked.file? place).map (·.mode) = (v.file? place).map (·.mode) := by
    intro v
    rw [file?_masked]
    cases v.file? place <;> simp
  rw [← hmodes t, h, hmodes u]

/-- Files that everyone may read are the same in trees that look alike. -/
theorem file?_eq_some_of_masked (hmode : f.mode ≠ .ownerOnly) (hfile : t.file? place = some f) :
    u.file? place = some f := by
  have hseen : u.masked.file? place = some f := by
    rw [← h, file?_masked, hfile, Option.map_some, File.masked_of_ne hmode]
  rw [file?_masked, Option.map_eq_some_iff] at hseen
  obtain ⟨f', hfile', rfl⟩ := hseen
  rw [File.mode_masked] at hmode
  rw [hfile', File.masked_of_ne hmode]

theorem makeDirectory_alike (p : Path) :
    (t.makeDirectory p).map masked = (u.makeDirectory p).map masked := by
  rw [← makeDirectory_masked, h, makeDirectory_masked]

theorem write_alike (p : Path) (text : String) :
    (t.write p text).map masked = (u.write p text).map masked := by
  rw [write_eq, write_eq, walk_eq_of_masked h]
  cases u.walk p with
  | error e => rfl
  | ok place =>
    dsimp only
    rw [isDirectory_eq_of_masked h, mode_eq_of_masked h]
    split
    · rfl
    · exact congrArg Except.ok (by rw [masked_setFile, masked_setFile, h])

/-- Whatever was written to a file that is then closed to others, they see the same. -/
theorem write_closed_alike (p : Path) (text text' : String) :
    ((t.write p text).bind (·.setMode p .ownerOnly)).map masked =
      ((u.write p text').bind (·.setMode p .ownerOnly)).map masked := by
  rw [write_eq, write_eq, walk_eq_of_masked h]
  cases hwalk : u.walk p with
  | error e => rfl
  | ok place =>
    dsimp only
    rw [isDirectory_eq_of_masked h]
    by_cases hdirectory : u.isDirectory place
    · rw [if_pos hdirectory, if_pos hdirectory]
    · rw [if_neg hdirectory, if_neg hdirectory]
      have hdirectory' : ¬t.isDirectory place := by rwa [isDirectory_eq_of_masked h]
      have hwalk' : t.walk p = .ok place := by rwa [walk_eq_of_masked h]
      change (Tree.setMode _ p .ownerOnly).map masked = (Tree.setMode _ p .ownerOnly).map masked
      rw [setMode_setFile hdirectory' hwalk', setMode_setFile hdirectory hwalk]
      exact congrArg Except.ok (by rw [masked_setFile, masked_setFile, h]; rfl)

end

end Tree

/-! ## Actions that look alike -/

namespace Machine

open Session

variable {α β : Type} {x y : Action α} {f g : α → Action β}

/-- The actions have the same result and leave trees that look alike, from trees that do. -/
def Alike (x y : Action α) : Prop :=
  ∀ t u : Trail Machine, t.state.tree.masked = u.state.tree.masked →
    (x.exec t).1 = (y.exec u).1 ∧
      (x.exec t).2.state.tree.masked = (y.exec u).2.state.tree.masked

theorem alike_pure (a : α) : Alike (pure a) (pure a) := fun _ _ h => ⟨rfl, h⟩

theorem alike_note (r : Log.Record) : Alike (note r) (note r) := fun _ _ h => ⟨rfl, h⟩

theorem Alike.bind (hx : Alike x y) (hf : ∀ a, Alike (f a) (g a)) : Alike (x >>= f) (y >>= g) := by
  intro t u h
  obtain ⟨hresult, htree⟩ := hx t u h
  rw [exec_bind, exec_bind]
  generalize x.exec t = rx at hresult htree ⊢
  generalize y.exec u = ry at hresult htree ⊢
  rcases rx with ⟨e | a, t'⟩ <;> rcases ry with ⟨e' | a', u'⟩ <;> cases hresult
  · exact ⟨rfl, htree⟩
  · exact hf a t' u' htree

theorem alike_changeTree {change change' : Tree → Except Failure Tree}
    (hchange : ∀ t u : Tree, t.masked = u.masked →
      (change t).map Tree.masked = (change' u).map Tree.masked) :
    Alike (changeTree change) (changeTree change') := by
  intro t u h
  have hsame := hchange _ _ h
  rw [exec_changeTree, exec_changeTree]
  cases hleft : change t.state.tree with
  | error e =>
    cases hright : change' u.state.tree with
    | error e' =>
      rw [hleft, hright] at hsame
      exact ⟨congrArg Except.error (Except.error.inj hsame), h⟩
    | ok tree' =>
      rw [hleft, hright] at hsame
      cases hsame
  | ok tree =>
    cases hright : change' u.state.tree with
    | error e' =>
      rw [hleft, hright] at hsame
      cases hsame
    | ok tree' =>
      rw [hleft, hright] at hsame
      exact ⟨rfl, Except.ok.inj hsame⟩

theorem alike_makeDirectory (p : Path) : Alike (makeDirectory p) (makeDirectory p) :=
  alike_changeTree fun _ _ h => Tree.makeDirectory_alike h p

theorem alike_write (p : Path) (text : String) : Alike (write p text) (write p text) :=
  alike_changeTree fun _ _ h => Tree.write_alike h p text

/-- Writing a file and closing it to others is one change, because the second part never fails. -/
theorem exec_write_closed (p : Path) (text : String) (t : Trail Machine) :
    (write p text >>= fun _ => setMode p .ownerOnly).exec t =
      (changeTree fun t => (t.write p text).bind (·.setMode p .ownerOnly)).exec t := by
  rw [exec_bind, write, exec_changeTree, exec_changeTree]
  cases hwrite : t.state.tree.write p text with
  | error e => rfl
  | ok tree =>
    obtain ⟨tree', hmode, -⟩ := (Tree.holds_of_write hwrite).setMode .ownerOnly
    dsimp only [Except.bind]
    rw [Machine.setMode, exec_changeTree]
    dsimp only
    rw [hmode]

theorem alike_write_closed (p : Path) (text text' : String) :
    Alike (write p text >>= fun _ => setMode p .ownerOnly)
      (write p text' >>= fun _ => setMode p .ownerOnly) := by
  have hchange := alike_changeTree fun t u h => Tree.write_closed_alike (t := t) (u := u) h p text text'
  intro t u h
  rw [exec_write_closed, exec_write_closed]
  exact hchange t u h

theorem alike_forM {γ : Type} {g : γ → Action Unit} {xs ys : List γ}
    (h : List.Forall₂ (fun a b => Alike (g a) (g b)) xs ys) : Alike (xs.forM g) (ys.forM g) := by
  induction h with
  | nil => exact alike_pure ()
  | cons hhead _ ih => exact hhead.bind fun _ => ih

end Machine

end StackCompiler
