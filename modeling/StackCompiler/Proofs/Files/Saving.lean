import StackCompiler.Proofs.Files.Tree

/-!
# Saving a file again and again

Where a text could be saved at a path, after the directories above it were made, a text can be saved
there ever after (`Tree.Writable.exists_closed`).
-/

namespace StackCompiler.Tree

variable {t t' made : Tree} {p : Path} {place q : Place} {f : File} {text : String}

/-! ## Making directories -/

/-- A path leads to a directory. -/
def IsDirectoryAt (t : Tree) (p : Path) : Prop :=
  ∃ place, t.walk p = .ok place ∧ t.isDirectory place

/-- The tree with one more directory. -/
def addDirectory (t : Tree) (place : Place) : Tree :=
  { t with directories := t.directories ++ [place] }

theorem isDirectory_addDirectory_self : (t.addDirectory place).isDirectory place := by
  simp [isDirectory, addDirectory]

theorem isDirectory_addDirectory (h : t.isDirectory q) : (t.addDirectory place).isDirectory q := by
  unfold isDirectory addDirectory at *
  simp only [Bool.or_eq_true, List.contains_append] at h ⊢
  exact h.imp_right .inl

theorem walk_addDirectory (h : t.walk p = .ok q) : (t.addDirectory place).walk p = .ok q := by
  refine walk_of_enter (fun start name next hnext => ?_) h
  obtain ⟨hfile, hdirectory, hlength, rfl⟩ := enter_eq_ok_iff.1 hnext
  exact enter_eq_ok_iff.2 ⟨hfile, isDirectory_addDirectory hdirectory, hlength, rfl⟩

/-- A directory was there before, or else nothing was there and it is new. -/
theorem makeOneOrKeep_cases (h : t.makeOneOrKeep p = .ok made) :
    t.IsDirectoryAt p ∧ made = t ∨
      ∃ place, t.walk p = .ok place ∧ ¬t.isPresent place ∧ made = t.addDirectory place := by
  unfold makeOneOrKeep at h
  split at h
  · cases hwalk : t.walk p with
    | error e' =>
      rw [hwalk] at h
      cases h
    | ok place =>
      rw [hwalk] at h
      dsimp only at h
      by_cases hdirectory : t.isDirectory place
      · rw [if_pos hdirectory] at h
        exact .inl ⟨⟨place, hwalk, hdirectory⟩, (Except.ok.inj h).symm⟩
      · rw [if_neg hdirectory] at h
        cases h
  · obtain ⟨place, hwalk, h⟩ := bind_eq_ok.1 h
    by_cases hpresent : t.isPresent place
    · rw [if_pos hpresent] at h
      cases h
    · rw [if_neg hpresent] at h
      exact .inr ⟨place, hwalk, hpresent, (Except.ok.inj h).symm⟩

/-- Where a directory could be made, or was one before, there is one. -/
theorem isDirectoryAt_of_makeOneOrKeep (h : t.makeOneOrKeep p = .ok made) :
    made.IsDirectoryAt p := by
  rcases makeOneOrKeep_cases h with ⟨hthere, rfl⟩ | ⟨place, hwalk, -, rfl⟩
  · exact hthere
  · exact ⟨place, walk_addDirectory hwalk, isDirectory_addDirectory_self⟩

theorem isDirectoryAt_of_makeAll : ∀ {n : Nat} {t : Tree}, makeAll n t p = .ok made →
    made.IsDirectoryAt p
  | 0, _, h => isDirectoryAt_of_makeOneOrKeep h
  | n + 1, t, h => by
    rw [makeAll] at h
    split at h
    · obtain ⟨above, -, habove⟩ := bind_eq_ok.1 h
      exact isDirectoryAt_of_makeOneOrKeep habove
    · exact isDirectoryAt_of_makeOneOrKeep h

/-- Making a directory changes nothing where there is one. -/
theorem makeDirectory_of_isDirectoryAt (h : t.IsDirectoryAt p) : t.makeDirectory p = .ok t := by
  obtain ⟨place, hwalk, hdirectory⟩ := h
  have hkeep : t.makeOneOrKeep p = .ok t := by
    have hone : t.makeOne p = .error (.directoryExists p.text) := by
      unfold makeOne
      rw [hwalk]
      change (if t.isPresent place then _ else _) = _
      rw [if_pos (by simp [isPresent, hdirectory])]
      rfl
    unfold makeOneOrKeep
    rw [hone, hwalk]
    exact if_pos hdirectory
  unfold makeDirectory
  cases p.names.length with
  | zero => exact hkeep
  | succ n =>
    rw [makeAll, hkeep]

/-! ## Saving -/

/-- A text can be put at a path once the directories above it were made. -/
def Writable (t : Tree) (p : Path) : Prop :=
  ∃ made written, t.makeDirectory p.parent = .ok made ∧ made.write p "" = .ok written

/-- A path leads to a place in a directory that exists, where a file is or may be. -/
structure Settled (t : Tree) (p : Path) (place : Place) : Prop where
  above : t.IsDirectoryAt p.parent
  walk : t.walk p = .ok place
  free : ¬t.isDirectory place

theorem Settled.setFile (h : t.Settled p place) : (t.setFile place f).Settled p place := by
  obtain ⟨above, hwalk, hdirectory⟩ := h.above
  exact ⟨⟨above, walk_setFile h.free hwalk, hdirectory⟩, walk_setFile h.free h.walk, h.free⟩

theorem Settled.write (h : t.Settled p place) (text : String) : ∃ mode,
    t.write p text = .ok (t.setFile place ⟨text, mode⟩) := by
  rw [write_eq, h.walk]
  exact ⟨_, if_neg h.free⟩

theorem Settled.writable (h : t.Settled p place) : t.Writable p := by
  obtain ⟨mode, hwrite⟩ := h.write ""
  exact ⟨t, _, makeDirectory_of_isDirectoryAt h.above, hwrite⟩

theorem Writable.exists_settled (h : t.Writable p) : ∃ made place,
    t.makeDirectory p.parent = .ok made ∧ made.Settled p place := by
  obtain ⟨made, written, hmade, hwrite⟩ := h
  obtain ⟨place, hwalk, h⟩ := bind_eq_ok.1 hwrite
  refine ⟨made, place, hmade, isDirectoryAt_of_makeAll hmade, hwalk, fun hdirectory => ?_⟩
  rw [if_pos hdirectory] at h
  cases h

/-- A path leads to a file that only its owner may read. -/
def IsPrivate (t : Tree) (p : Path) : Prop :=
  ∃ place f, t.walk p = .ok place ∧ t.file? place = some f ∧ f.mode = .ownerOnly

/-- A text that was put at a path and closed to others. -/
theorem Writable.exists_closed (h : t.Writable p) (text : String) : ∃ made written closed,
    t.makeDirectory p.parent = .ok made ∧ made.write p text = .ok written ∧
      written.setMode p .ownerOnly = .ok closed ∧
        closed.Writable p ∧ closed.Holds p text ∧ closed.IsPrivate p := by
  obtain ⟨made, place, hmade, hsettled⟩ := h.exists_settled
  obtain ⟨mode, hwrite⟩ := hsettled.write text
  refine ⟨made, _, made.setFile place ⟨text, .ownerOnly⟩, hmade, hwrite,
    setMode_setFile hsettled.free hsettled.walk, hsettled.setFile.writable,
    holds_setFile hsettled.free hsettled.walk, ?_⟩
  exact ⟨place, _, hsettled.setFile.walk, file?_setFile_self, rfl⟩

end StackCompiler.Tree
