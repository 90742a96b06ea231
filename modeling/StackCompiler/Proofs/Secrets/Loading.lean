import StackCompiler.Proofs.Files.Tree
import StackCompiler.Proofs.Machine
import StackCompiler.Secrets.Store

/-!
# Loading and saving secrets

What is loaded from a path depends on the tree alone (`Secrets.stored`). After secrets were saved,
what is stored is what their text says, unless something failed on the way
(`Secrets.stored_of_save`).
-/

namespace StackCompiler.Secrets

open Machine Session

variable {path : Path}

/-! ## Loading -/

/-- The data that the text of a document says; one without content is an empty mapping. -/
def documentOf (onMalformed : Failure) (text : String) : Except Failure Data :=
  match Yaml.read text with
  | .ok d => .ok (if d.isVacant then .map [] else d)
  | .error fault => .error (.ofFault onMalformed fault)

theorem exec_readDocument (onMalformed : Failure) (t : Trail Machine) :
    (Project.readDocument onMalformed path).exec t =
      (t.state.tree.read path >>= documentOf onMalformed, t) := by
  rw [Project.readDocument, exec_bind, exec_read]
  cases t.state.tree.read path with
  | error e => rfl
  | ok text =>
    change _ = (documentOf onMalformed text, t)
    rw [documentOf]
    dsimp only
    cases Yaml.read text <;> rfl

/-- The secrets that a document says. -/
def ofDocument : Data → Except Failure Secrets
  | .map fields => do (Secrets.decode (← StackFile.named fields)).toExcept .rejected
  | _ => .error .wrongType

/-- The secrets that a text says, which was found at a path. -/
def ofText (path : Path) (text : String) : Except Failure Secrets :=
  documentOf (.secretsUnreadable path.text) text >>= ofDocument

/-- The secrets that are stored at a path. -/
def stored (path : Path) (t : Tree) : Except Failure Secrets := do
  if ← t.contains path then ofText path (← t.read path) else return {}

theorem exec_load (t : Trail Machine) : (load path).exec t = (stored path t.state.tree, t) := by
  rw [load, exec_bind, exec_exists?, stored]
  rcases t.state.tree.contains path with e | _ | _
  · rfl
  · rfl
  · have hread : (t.state.tree.read path >>= ofText path) =
        t.state.tree.read path >>= documentOf (.secretsUnreadable path.text) >>= ofDocument := by
      cases t.state.tree.read path <;> rfl
    change (Project.readDocument _ _ >>= _).exec t = (t.state.tree.read path >>= ofText path, t)
    rw [exec_bind, exec_readDocument, hread]
    generalize t.state.tree.read path >>= documentOf (.secretsUnreadable path.text) = d
    rcases d with e | d
    · rfl
    · cases d with
      | map fields => exact exec_ofExcept _ _
      | _ => rfl

/-! ## Saving -/

/-- What is stored when nothing can be read. -/
theorem stored_eq_of_unread {t : Tree} (h : t.contains path = .ok false ∨
    (∃ e, t.contains path = .error e) ∨ ∃ e, t.read path = .error e) :
    stored path t = .ok {} ∨ ∃ e, stored path t = .error e := by
  rw [stored]
  rcases hcontains : t.contains path with e | _ | _
  · exact .inr ⟨e, rfl⟩
  · exact .inl rfl
  · rw [hcontains] at h
    obtain ⟨e, he⟩ : ∃ e, t.read path = .error e := by simpa using h
    rw [he]
    exact .inr ⟨e, rfl⟩

theorem stored_eq_of_holds {t : Tree} {text : String} (h : t.Holds path text) :
    stored path t = ofText path (String.ofList (Text.plainLineEnds text.toList)) := by
  rw [stored, h.contains, h.read]
  rfl

/-- The text that is found where secrets were saved. -/
def savedText (s : Secrets) : String :=
  String.ofList (Text.plainLineEnds (Yaml.write s.toData).toList)

/-- What `save` leaves: the store as it was or with nothing to read, if something failed on the
way, or else what was written. -/
theorem stored_of_save (path : Path) (s : Secrets) (t : Trail Machine) :
    let tree := ((save path s).exec t).2.state.tree
    stored path tree = stored path t.state.tree ∨ stored path tree = .ok {} ∨
      (∃ e, stored path tree = .error e) ∨
        stored path tree = ofText path s.savedText := by
  dsimp only
  rw [save, exec_bind, makeDirectory, exec_changeTree]
  cases hmake : t.state.tree.makeDirectory path.parent with
  | error e => exact .inl rfl
  | ok made =>
    dsimp only
    rw [exec_bind, Machine.write, exec_changeTree]
    cases hwrite : made.write path (Yaml.write s.toData) with
    | error e =>
      exact .inr ((stored_eq_of_unread (Tree.unread_of_write_eq_error hwrite)).imp_right .inl)
    | ok written =>
      obtain ⟨tree, hmode, hholds⟩ := (Tree.holds_of_write hwrite).setMode .ownerOnly
      dsimp only
      rw [exec_bind, Machine.setMode, exec_changeTree, hmode]
      exact .inr (.inr (.inr (stored_eq_of_holds hholds)))

end StackCompiler.Secrets
