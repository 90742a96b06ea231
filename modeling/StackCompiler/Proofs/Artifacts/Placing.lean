import StackCompiler.Proofs.Artifacts.Writing
import StackCompiler.Proofs.Files.Growing

/-!
# Placing files again

After files were placed one after another, each place that they lead to has the text of the last of
them that leads there, and all other files are as they were (`Artifacts.textAt_of_placeAll`). They
can then be placed again (`Artifacts.exists_placeAll`), with any texts. The names of outputs end in
one of a few ways (`Artifacts.exists_ending_of_mem_outputs`).
-/

namespace StackCompiler.Artifacts

variable {o : Output} {files : List Output} {tree tree' : Tree} {q : Place}

/-! ## One file -/

theorem Output.puts_of_placeIn (h : o.placeIn tree = .ok tree') :
    tree.Puts o.path o.text tree' := by
  obtain ⟨made, hmade, h⟩ := bind_eq_ok.1 h
  obtain ⟨written, hwrite, h⟩ := bind_eq_ok.1 h
  have hputs := Tree.puts_of_write hmade hwrite
  by_cases hmode : o.mode ≠ .everyone
  · rw [if_pos hmode] at h
    exact hputs.setMode h
  · rw [if_neg hmode] at h
    exact Except.ok.inj h ▸ hputs

/-- A file can be placed where there is one. -/
theorem Output.exists_placeIn (h : tree.Occupied o.path) : ∃ tree', o.placeIn tree = .ok tree' := by
  obtain ⟨mode, hwrite⟩ := h.settled.write o.text
  have hmade := Tree.makeDirectory_of_isDirectoryAt h.above
  by_cases hmode : o.mode ≠ .everyone
  · refine ⟨tree.setFile (.ofPath o.path) ⟨o.text, o.mode⟩,
      bind_eq_ok.2 ⟨tree, hmade, bind_eq_ok.2 ⟨_, hwrite, ?_⟩⟩⟩
    rw [if_pos hmode]
    exact Tree.setMode_setFile h.free h.walk
  · refine ⟨tree.setFile (.ofPath o.path) ⟨o.text, mode⟩,
      bind_eq_ok.2 ⟨tree, hmade, bind_eq_ok.2 ⟨_, hwrite, ?_⟩⟩⟩
    rw [if_neg hmode]
    rfl

/-! ## Several files -/

theorem placeAll_cons_eq_ok_iff : placeAll (o :: files) tree = .ok tree' ↔
    ∃ tree₁, o.placeIn tree = .ok tree₁ ∧ placeAll files tree₁ = .ok tree' := by
  rw [placeAll, List.foldlM_cons, bind_eq_ok]
  rfl

theorem grown_of_placeAll (h : placeAll files tree = .ok tree') : tree.Grown tree' := by
  induction files generalizing tree with
  | nil =>
    cases h
    apply Tree.Grown.refl
  | cons o files ih =>
    obtain ⟨tree₁, hplace, hrest⟩ := placeAll_cons_eq_ok_iff.1 h
    exact (Output.puts_of_placeIn hplace).grown.trans (ih hrest)

/-- Each of the files is where its path leads. -/
theorem occupied_of_placeAll (h : placeAll files tree = .ok tree') :
    ∀ o ∈ files, tree'.Occupied o.path := by
  induction files generalizing tree with
  | nil => simp
  | cons o files ih =>
    obtain ⟨tree₁, hplace, hrest⟩ := placeAll_cons_eq_ok_iff.1 h
    refine List.forall_mem_cons.2 ⟨?_, ih hrest⟩
    apply (grown_of_placeAll hrest).occupied
    exact (Output.puts_of_placeIn hplace).occupied

/-- Files can be placed where there are some. -/
theorem exists_placeAll (h : ∀ o ∈ files, tree.Occupied o.path) :
    ∃ tree', placeAll files tree = .ok tree' := by
  induction files generalizing tree with
  | nil => exact ⟨tree, rfl⟩
  | cons o files ih =>
    obtain ⟨hoccupied, hfiles⟩ := List.forall_mem_cons.1 h
    obtain ⟨tree₁, hplace⟩ := Output.exists_placeIn hoccupied
    have hgrown := (Output.puts_of_placeIn hplace).grown
    obtain ⟨tree', hrest⟩ := ih fun o' ho' => hgrown.occupied (hfiles o' ho')
    exact ⟨tree', placeAll_cons_eq_ok_iff.2 ⟨tree₁, hplace, hrest⟩⟩

/-! ## Texts -/

/-- The text at a place after files were put one after another: that of the last one that leads
there, or else the text before. -/
def lastText (q : Place) (files : List Output) (before : Option String) : Option String :=
  files.foldl (fun text o => if q = .ofPath o.path then some o.text else text) before

theorem textAt_of_placeAll (h : placeAll files tree = .ok tree') :
    tree'.textAt q = lastText q files (tree.textAt q) := by
  induction files generalizing tree with
  | nil =>
    cases h
    rfl
  | cons o files ih =>
    obtain ⟨tree₁, hplace, hrest⟩ := placeAll_cons_eq_ok_iff.1 h
    have hputs := Output.puts_of_placeIn hplace
    have hfirst : tree₁.textAt q =
        if q = .ofPath o.path then some o.text else tree.textAt q := by
      by_cases hq : q = .ofPath o.path
      · rw [if_pos hq, hq, hputs.textAt_self]
      · rw [if_neg hq, Tree.textAt, hputs.file?_of_ne hq, Tree.textAt]
    rw [ih hrest, hfirst]
    rfl

/-- Files that do not lead to a place leave its text, and others decide it. -/
theorem lastText_cases (q : Place) (files : List Output) :
    (∀ before, lastText q files before = before) ∨
      ∃ text, ∀ before, lastText q files before = text := by
  induction files with
  | nil => exact .inl fun _ => rfl
  | cons o files ih =>
    rcases ih with hkeep | ⟨text, hlast⟩
    · by_cases hq : q = .ofPath o.path
      · refine .inr ⟨some o.text, fun before => ?_⟩
        exact (hkeep _).trans (if_pos hq)
      · refine .inl fun before => ?_
        exact (hkeep _).trans (if_neg hq)
    · exact .inr ⟨text, fun before => hlast _⟩

/-- Only the last files count, so that the same files may be put twice. -/
theorem lastText_lastText (q : Place) (files : List Output) (before : Option String) :
    lastText q files (lastText q files before) = lastText q files before := by
  rcases lastText_cases q files with hkeep | ⟨text, hlast⟩
  · rw [hkeep]
  · rw [hlast, hlast]

theorem lastText_of_forall_ne (h : ∀ o ∈ files, q ≠ .ofPath o.path) (before : Option String) :
    lastText q files before = before := by
  induction files with
  | nil => rfl
  | cons o files ih =>
    obtain ⟨ho, hfiles⟩ := List.forall_mem_cons.1 h
    change lastText q files (if _ then _ else _) = _
    rw [if_neg ho, ih hfiles]

/-- Where all files lead to different places, each of them counts. -/
theorem lastText_of_mem (h : (files.map fun o => Place.ofPath o.path).Nodup) (ho : o ∈ files)
    (before : Option String) : lastText (.ofPath o.path) files before = some o.text := by
  induction files generalizing before with
  | nil => exact absurd ho List.not_mem_nil
  | cons o' files ih =>
    rw [List.map_cons, List.nodup_cons] at h
    change lastText _ files (if _ then _ else _) = _
    rcases List.mem_cons.1 ho with rfl | ho
    · have hne : ∀ o' ∈ files, Place.ofPath o.path ≠ .ofPath o'.path := fun o' ho' heq =>
        h.1 (heq ▸ List.mem_map_of_mem ho')
      rw [if_pos rfl, lastText_of_forall_ne hne]
    · exact ih h.2 ho _

/-- Texts that are related, file by file, are related at each place after the files were put. -/
theorem rel_lastText {R : Option String → Option String → Prop} {files files' : List Output}
    (hfiles : List.Forall₂ (fun o o' => o'.path = o.path ∧
      (q = .ofPath o.path → R (some o.text) (some o'.text))) files files') :
    ∀ {before before' : Option String}, R before before' →
      R (lastText q files before) (lastText q files' before') := by
  induction hfiles with
  | nil => exact fun h => h
  | @cons o o' files files' ho _ ih =>
    intro before before' h
    refine ih ?_
    dsimp only
    rw [ho.1]
    by_cases hq : q = .ofPath o.path
    · rw [if_pos hq, if_pos hq]
      exact ho.2 hq
    · rwa [if_neg hq, if_neg hq]

/-! ## Outputs -/

section Outputs

variable {a : Artifacts} {realm : String} {directory : Path}

/-- The file that the realm is written to. -/
def realmFile (realm : String) (directory : Path) : Path :=
  (directory.join "keycloak").join s!"realm-{realm}.json"

/-- How the names of outputs end. -/
def endings : List String := [".yml", ".json", ".env"]

theorem exists_ending_of_mem_outputs {o : Output} (ho : o ∈ a.outputs realm directory) :
    ∃ (p : Path) (start ending : String), ending ∈ endings ∧ o.path = p.join (start ++ ending) := by
  unfold outputs at ho
  rw [List.mem_append, List.mem_append] at ho
  rcases ho with (ho | ho) | ho
  · simp only [List.mem_cons, List.not_mem_nil, or_false] at ho
    rcases ho with rfl | rfl | rfl
    · exact ⟨_, "dynamic", ".yml", by decide, rfl⟩
    · exact ⟨_, "realm-" ++ realm, ".json", by decide, rfl⟩
    · exact ⟨_, "descriptor", ".json", by decide, rfl⟩
  · obtain ⟨⟨id, text⟩, -, rfl⟩ := List.mem_map.1 ho
    exact ⟨_, id, ".env", by decide, rfl⟩
  · cases hinline : a.inlineDescriptor with
    | none =>
      rw [hinline] at ho
      exact absurd ho List.not_mem_nil
    | some text =>
      rw [hinline] at ho
      obtain rfl := List.mem_singleton.1 ho
      exact ⟨_, "descriptor", ".env", by decide, rfl⟩

end Outputs

end StackCompiler.Artifacts
