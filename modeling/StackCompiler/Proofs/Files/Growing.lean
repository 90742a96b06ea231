import StackCompiler.Proofs.Files.Saving

/-!
# Growing trees

A tree grows when directories are made where nothing was, and when files are put where no directory
was (`Tree.Grown`). A path leads where it led before in a tree that has grown (`Grown.walk`), and a
file can be put where there is one already (`Found.occupied`). Putting a text at a path, below
directories that are made where they are missing, makes a tree grow and changes one file
(`Tree.Puts`).
-/

namespace StackCompiler.Tree

variable {t t' u v made : Tree} {p : Path} {place q : Place} {f : File} {text : String}

/-! ## Where paths lead -/

theorem eq_foldl_of_enter {names : List String} {start : Place}
    (h : names.foldlM (t.enter p) start = .ok place) : place = names.foldl Place.step start := by
  induction names generalizing start with
  | nil => exact (Except.ok.inj h).symm
  | cons name names ih =>
    rw [List.foldlM_cons] at h
    obtain ⟨next, hnext, hrest⟩ := bind_eq_ok.1 h
    obtain ⟨-, -, -, rfl⟩ := enter_eq_ok_iff.1 hnext
    rw [List.foldl_cons]
    exact ih hrest

theorem foldlM_of_walk (h : t.walk p = .ok place) :
    p.names.foldlM (t.enter p) (.start p) = .ok place := (walk_eq_ok_iff.1 h).2.2

/-- If a path can be walked, it leads where its names say. -/
theorem eq_ofPath_of_walk (h : t.walk p = .ok place) : place = .ofPath p :=
  eq_foldl_of_enter (foldlM_of_walk h)

/-- What a walk passes through is no file. -/
theorem not_isFile_of_walk {root name : String} {names rest : List String}
    (h : t.walk ⟨root, names ++ name :: rest⟩ = .ok place) : ¬t.isFile ⟨root, names⟩ := by
  have hfold := foldlM_of_walk h
  rw [List.foldlM_append] at hfold
  obtain ⟨mid, hmid, hfold⟩ := bind_eq_ok.1 hfold
  rw [List.foldlM_cons] at hfold
  obtain ⟨next, hnext, -⟩ := bind_eq_ok.1 hfold
  obtain ⟨hnone, -⟩ := enter_eq_ok_iff.1 hnext
  have hplace : mid = .ofPath ⟨root, names⟩ := eq_foldl_of_enter hmid
  rw [isFile]
  cases hwalk : t.walk ⟨root, names⟩ with
  | error e => simp
  | ok place' =>
    rw [eq_ofPath_of_walk hwalk, ← hplace]
    simp [hnone]

/-- The text of a path is the text of the path to the directory above and the last name, unless that
is the working directory. -/
theorem text_above_cases (root : String) (names : List String) (name : String) :
    (Path.text ⟨root, names⟩ = "." ∧ Path.text ⟨root, names ++ [name]⟩ = name) ∨
      ∃ slash ∈ ["", "/"],
        Path.text ⟨root, names ++ [name]⟩ = Path.text ⟨root, names⟩ ++ (slash ++ name) := by
  have hnames : (names ++ [name]).isEmpty = false := by simp
  unfold Path.text
  simp only [hnames, Bool.and_false, Bool.false_eq_true, if_false]
  split
  · rename_i hhere
    rw [Bool.and_eq_true, String.isEmpty_iff, List.isEmpty_iff] at hhere
    obtain ⟨rfl, rfl⟩ := hhere
    exact .inl ⟨rfl, by simp⟩
  · refine .inr ?_
    by_cases hnil : names = []
    · subst hnil
      exact ⟨"", by simp, by simp⟩
    · rw [String.intercalate_append_of_ne_nil hnil (List.cons_ne_nil name [])]
      exact ⟨"/", by simp, by simp [String.append_assoc]⟩

/-- Only the failures of a walk depend on what it is on the way to. -/
theorem enter_of_enter {p' : Path} {next : Place} {name : String}
    (h : t.enter p q name = .ok next) : t.enter p' q name = .ok next :=
  enter_eq_ok_iff.2 (enter_eq_ok_iff.1 h)

theorem foldlM_of_foldlM (p' : Path) {names : List String} {start : Place}
    (h : names.foldlM (t.enter p) start = .ok q) : names.foldlM (t.enter p') start = .ok q :=
  foldlM_of_enter (fun _ _ _ => enter_of_enter) h

/-- Where a path can be walked, so can the one to the directory above. -/
theorem isDirectoryAt_of_walk {root name : String} {names : List String}
    (h : t.walk ⟨root, names ++ [name]⟩ = .ok q) : t.IsDirectoryAt ⟨root, names⟩ := by
  obtain ⟨hnull, hlength, hfold⟩ := walk_eq_ok_iff.1 h
  rw [List.foldlM_append] at hfold
  obtain ⟨mid, hmid, hlast⟩ := bind_eq_ok.1 hfold
  rw [List.foldlM_cons] at hlast
  obtain ⟨next, hnext, -⟩ := bind_eq_ok.1 hlast
  have hmid' := foldlM_of_foldlM ⟨root, names⟩ hmid
  refine ⟨mid, walk_eq_ok_iff.2 ⟨?_, ?_, hmid'⟩, isDirectory_of_enter hnext⟩
  · rcases text_above_cases root names name with ⟨htext, -⟩ | ⟨slash, -, htext⟩
    · rw [htext]
      decide
    · rw [htext, String.toList_append, List.mem_append, not_or] at hnull
      exact hnull.1
  · rcases text_above_cases root names name with ⟨htext, -⟩ | ⟨slash, -, htext⟩
    · rw [htext]
      decide
    · rw [htext, String.utf8ByteSize_append] at hlength
      omega

section Directory

variable {root name : String} {names : List String}

theorem null_not_mem_text (h : t.walk ⟨root, names⟩ = .ok place) (hname : '\x00' ∉ name.toList) :
    '\x00' ∉ (Path.text ⟨root, names ++ [name]⟩).toList := by
  have habove : '\x00' ∉ (Path.text ⟨root, names⟩).toList := (walk_eq_ok_iff.1 h).1
  rcases text_above_cases root names name with ⟨-, htext⟩ | ⟨slash, hslash, htext⟩
  · rwa [htext]
  · have hslash : '\x00' ∉ slash.toList := by
      rcases List.mem_pair.1 hslash with rfl | rfl <;> decide
    simp [htext, habove, hslash, hname]

/-- From a directory, a name leads to a place in it unless something is too long. -/
theorem walk_append (hwalk : t.walk ⟨root, names⟩ = .ok place) (hdirectory : t.isDirectory place)
    (hfree : ¬(t.file? place).isSome) (hname : '\x00' ∉ name.toList) :
    t.walk ⟨root, names ++ [name]⟩ =
      if maxPathBytes < (Path.text ⟨root, names ++ [name]⟩).utf8ByteSize ∨
        maxNameBytes < name.utf8ByteSize
      then .error (.nameTooLong (Path.text ⟨root, names ++ [name]⟩))
      else .ok (place.step name) := by
  have hnull := mt List.contains_iff_mem.1 (null_not_mem_text hwalk hname)
  have hfold : (names ++ [name]).foldlM (t.enter ⟨root, names ++ [name]⟩)
      (Place.start ⟨root, names ++ [name]⟩) = t.enter ⟨root, names ++ [name]⟩ place name := by
    rw [List.foldlM_append]
    change (names.foldlM _ (Place.start ⟨root, names⟩) >>= _) = _
    rw [foldlM_of_foldlM _ (foldlM_of_walk hwalk)]
    exact bind_pure (t.enter _ place name)
  have hthere : ¬(!t.isDirectory place) = true := by simp [hdirectory]
  rw [walk, if_neg hnull, hfold, enter, if_neg hfree, if_neg hthere]
  by_cases hpath : maxPathBytes < (Path.text ⟨root, names ++ [name]⟩).utf8ByteSize
  · rw [if_pos hpath, if_pos (.inl hpath)]
  · by_cases hlong : maxNameBytes < name.utf8ByteSize
    · rw [if_neg hpath, if_pos hlong, if_pos (.inr hlong)]
    · rw [if_neg hpath, if_neg hlong, if_neg (not_or.2 ⟨hpath, hlong⟩)]

/-- A path in a directory leads to a place if it can be told whether something is there. -/
theorem exists_walk_of_contains {found : Bool} (habove : t.IsDirectoryAt ⟨root, names⟩)
    (hfree : ¬t.isFile ⟨root, names⟩) (hname : '\x00' ∉ name.toList)
    (h : t.contains ⟨root, names ++ [name]⟩ = .ok found) :
    ∃ place, t.walk ⟨root, names ++ [name]⟩ = .ok place ∧ t.isPresent place = found := by
  obtain ⟨above, hwalk, hdirectory⟩ := habove
  rw [isFile, hwalk] at hfree
  have happend := walk_append hwalk hdirectory hfree hname
  rw [contains] at h
  split at happend
  · rw [happend] at h
    cases h
  · rw [happend] at h
    exact ⟨_, happend, Except.ok.inj h⟩

end Directory

/-- Where a text was written, no other file has changed. -/
theorem file?_of_write (h : t.write p text = .ok t') (hq : q ≠ .ofPath p) :
    t'.file? q = t.file? q := by
  obtain ⟨place, hwalk, -, rfl⟩ := write_eq_ok_iff.1 h
  obtain rfl := eq_ofPath_of_walk hwalk
  exact file?_setFile_of_ne hq

theorem file?_of_setMode {mode : FileMode} (h : t.setMode p mode = .ok t') (hq : q ≠ .ofPath p) :
    t'.file? q = t.file? q := by
  obtain ⟨place, hwalk, h⟩ := bind_eq_ok.1 h
  obtain rfl := eq_ofPath_of_walk hwalk
  split at h
  · cases h
    exact file?_setFile_of_ne hq
  · cases h
    rfl

/-! ## Steps of growth -/

/-- The tree has grown out of another one. -/
inductive Grown (t : Tree) : Tree → Prop where
  | refl : Grown t t
  | directory {u : Tree} {place : Place} : Grown t u → ¬u.isPresent place →
    Grown t (u.addDirectory place)
  | file {u : Tree} {place : Place} {f : File} : Grown t u → ¬u.isDirectory place →
    Grown t (u.setFile place f)

theorem Grown.trans (h : Grown t u) (h' : Grown u v) : Grown t v := by
  induction h' with
  | refl => exact h
  | directory _ hplace ih => exact .directory ih hplace
  | file _ hplace ih => exact .file ih hplace

/-- A path leads where it led before. -/
theorem Grown.walk (h : Grown t t') (hwalk : t.walk p = .ok q) : t'.walk p = .ok q := by
  induction h with
  | refl => exact hwalk
  | directory _ _ ih => exact walk_addDirectory ih
  | file _ hplace ih => exact walk_setFile hplace ih

theorem Grown.isDirectory (h : Grown t t') (hq : t.isDirectory q) : t'.isDirectory q := by
  induction h with
  | refl => exact hq
  | directory _ _ ih => exact isDirectory_addDirectory ih
  | file _ _ ih => exact ih

theorem Grown.isDirectoryAt (h : Grown t t') (hp : t.IsDirectoryAt p) : t'.IsDirectoryAt p := by
  obtain ⟨place, hwalk, hdirectory⟩ := hp
  exact ⟨place, h.walk hwalk, h.isDirectory hdirectory⟩

/-! ## Files that are there -/

/-- The text of the file at a place. -/
def textAt (t : Tree) (place : Place) : Option String := (t.file? place).map (·.text)

/-- A path leads to a file. -/
structure Found (t : Tree) (p : Path) : Prop where
  walk : t.walk p = .ok (.ofPath p)
  free : ¬t.isDirectory (.ofPath p)
  file : (t.file? (.ofPath p)).isSome

theorem isDirectory_addDirectory_of_ne (hne : q ≠ place) :
    (t.addDirectory place).isDirectory q = t.isDirectory q := by
  simp [isDirectory, addDirectory, hne]

/-- No directory is made where a file is. -/
theorem Found.not_isDirectory_addDirectory (h : t.Found p) (hplace : ¬t.isPresent place) :
    ¬(t.addDirectory place).isDirectory (.ofPath p) := by
  have hne : Place.ofPath p ≠ place := by
    rintro rfl
    rw [isPresent, h.file] at hplace
    exact hplace rfl
  rw [isDirectory_addDirectory_of_ne hne]
  exact h.free

theorem isSome_file?_setFile (h : (t.file? q).isSome) : ((t.setFile place f).file? q).isSome := by
  by_cases hq : q = place
  · subst hq
    rw [file?_setFile_self, Option.isSome_some]
  · rwa [file?_setFile_of_ne hq]

/-- A file that is there stays there, whatever its text. -/
theorem Grown.found (h : Grown t t') (hp : t.Found p) : t'.Found p := by
  induction h with
  | refl => exact hp
  | directory _ hplace ih =>
    exact ⟨walk_addDirectory ih.walk, ih.not_isDirectory_addDirectory hplace, ih.file⟩
  | file _ hplace ih => exact ⟨walk_setFile hplace ih.walk, ih.free, isSome_file?_setFile ih.file⟩

/-- A path leads to a file in a directory that exists, where a text can be put again. -/
structure Occupied (t : Tree) (p : Path) : Prop extends t.Found p where
  above : t.IsDirectoryAt p.parent

/-- Where a file is, a text can be put again. -/
theorem Found.occupied (h : t.Found p) : t.Occupied p := by
  refine ⟨h, ?_⟩
  obtain ⟨root, names⟩ := p
  rcases List.eq_nil_or_concat names with rfl | ⟨names, name, rfl⟩
  · refine absurd ?_ h.free
    change (Place.isAbove (Place.start ⟨root, []⟩) || _) = true
    have habove : Place.isAbove (Place.start ⟨root, []⟩) := by
      unfold Place.start
      split <;> decide
    rw [habove, Bool.true_or]
  · rw [List.concat_eq_append] at h ⊢
    rw [Path.parent, List.dropLast_concat]
    exact isDirectoryAt_of_walk h.walk

theorem Occupied.settled (h : t.Occupied p) : t.Settled p (.ofPath p) := ⟨h.above, h.walk, h.free⟩

theorem Grown.occupied (h : Grown t t') (hp : t.Occupied p) : t'.Occupied p :=
  ⟨h.found hp.toFound, h.isDirectoryAt hp.above⟩

theorem holds_iff : t.Holds p text ↔ t.Found p ∧ t.textAt (.ofPath p) = some text := by
  constructor
  · rintro ⟨place, f, hwalk, hfree, hfile, rfl⟩
    obtain rfl := eq_ofPath_of_walk hwalk
    refine ⟨⟨hwalk, hfree, ?_⟩, ?_⟩
    · rw [hfile, Option.isSome_some]
    · rw [textAt, hfile, Option.map_some]
  · rintro ⟨hfound, htext⟩
    obtain ⟨f, hfile, heq⟩ := Option.map_eq_some_iff.1 htext
    exact ⟨_, f, hfound.walk, hfound.free, hfile, heq⟩

/-- A file keeps its text in a tree that has grown, if its text was not changed. -/
theorem Holds.of_grown (h : t.Holds p text) (hgrown : Grown t t')
    (hsame : t'.textAt (.ofPath p) = t.textAt (.ofPath p)) : t'.Holds p text := by
  obtain ⟨hfound, htext⟩ := holds_iff.1 h
  exact holds_iff.2 ⟨hgrown.found hfound, hsame.trans htext⟩

/-! ## Making directories -/

/-- What holds of a tree and is kept by each new directory holds after directories were made. -/
theorem makeAll_induction {P : Tree → Prop}
    (hstep : ∀ u place, P u → ¬u.isPresent place → P (u.addDirectory place)) :
    ∀ {n : Nat} {t : Tree} {p : Path}, P t → makeAll n t p = .ok made → P made := by
  have hone : ∀ {t made : Tree} {p : Path}, P t → t.makeOneOrKeep p = .ok made → P made := by
    intro t made p ht h
    rcases makeOneOrKeep_cases h with ⟨-, rfl⟩ | ⟨place, -, hpresent, rfl⟩
    · exact ht
    · exact hstep t place ht hpresent
  intro n
  induction n generalizing made with
  | zero => exact fun ht h => hone ht h
  | succ n ih =>
    intro t p ht h
    rw [makeAll] at h
    split at h
    · obtain ⟨above, habove, h⟩ := bind_eq_ok.1 h
      exact hone (ih ht habove) h
    · exact hone ht h

theorem grown_of_makeDirectory (h : t.makeDirectory p = .ok made) : Grown t made :=
  makeAll_induction (P := Grown t) (fun _ _ hu hplace => .directory hu hplace) .refl h

theorem file?_of_makeDirectory (h : t.makeDirectory p = .ok made) (q : Place) :
    made.file? q = t.file? q :=
  makeAll_induction (P := fun u => u.file? q = t.file? q) (fun _ _ hu _ => hu) rfl h

/-! ## Putting texts -/

/-- The tree after a text was put at a path, below directories that were made where they were
missing. -/
def Puts (t : Tree) (p : Path) (text : String) (t' : Tree) : Prop :=
  ∃ made f, t.makeDirectory p.parent = .ok made ∧ made.Settled p (.ofPath p) ∧ f.text = text ∧
    t' = made.setFile (.ofPath p) f

theorem puts_of_write (hmade : t.makeDirectory p.parent = .ok made)
    (hwrite : made.write p text = .ok t') : t.Puts p text t' := by
  obtain ⟨place, hwalk, hdirectory, rfl⟩ := write_eq_ok_iff.1 hwrite
  obtain rfl := eq_ofPath_of_walk hwalk
  exact ⟨made, _, hmade, ⟨isDirectoryAt_of_makeAll hmade, hwalk, hdirectory⟩, rfl, rfl⟩

namespace Puts

/-- The mode of the file can be set besides. -/
theorem setMode {mode : FileMode} (h : t.Puts p text u) (hmode : u.setMode p mode = .ok t') :
    t.Puts p text t' := by
  obtain ⟨made, f, hmade, hsettled, rfl, rfl⟩ := h
  rw [setMode_setFile hsettled.free hsettled.walk] at hmode
  exact ⟨made, { f with mode }, hmade, hsettled, rfl, (Except.ok.inj hmode).symm⟩

variable (h : t.Puts p text t')

include h

theorem grown : Grown t t' := by
  obtain ⟨made, f, hmade, hsettled, -, rfl⟩ := h
  exact .file (grown_of_makeDirectory hmade) hsettled.free

theorem textAt_self : t'.textAt (.ofPath p) = some text := by
  obtain ⟨made, f, -, -, rfl, rfl⟩ := h
  rw [textAt, file?_setFile_self, Option.map_some]

theorem occupied : t'.Occupied p := by
  obtain ⟨made, f, -, hsettled, -, rfl⟩ := h
  have hafter : (made.setFile (.ofPath p) f).Settled p (.ofPath p) := hsettled.setFile
  refine ⟨⟨hafter.walk, hafter.free, ?_⟩, hafter.above⟩
  rw [file?_setFile_self, Option.isSome_some]

theorem holds : t'.Holds p text := holds_iff.2 ⟨h.occupied.toFound, h.textAt_self⟩

/-- No other file changes. -/
theorem file?_of_ne (hq : q ≠ .ofPath p) : t'.file? q = t.file? q := by
  obtain ⟨made, f, hmade, -, -, rfl⟩ := h
  rw [file?_setFile_of_ne hq, file?_of_makeDirectory hmade]

end Puts

end StackCompiler.Tree
