import StackCompiler.Files.Tree
import StackCompiler.Proofs.Data.Reading

/-!
# What is read after writing

A text that was written to a path is read from it again, with its line ends made plain
(`Tree.holds_of_write`), and setting a mode changes no text. Where nothing could be written, nothing
is read.
-/

namespace StackCompiler.Tree

variable {t t' : Tree} {p : Path} {place q : Place} {f : File} {text : String}

/-! ## Walks -/

/-- The tree with a file put at a place. -/
def setFile (t : Tree) (place : Place) (f : File) : Tree :=
  { t with files := setEntry place f t.files }

theorem file?_setFile_self : (t.setFile place f).file? place = some f := lookup_setEntry_self

theorem file?_setFile_of_ne (h : q ≠ place) : (t.setFile place f).file? q = t.file? q :=
  lookup_setEntry_of_ne h

theorem setFile_setFile {f' : File} : (t.setFile place f).setFile place f' = t.setFile place f' := by
  rw [setFile, setFile, setFile, setEntry_setEntry]

/-- All that a step of a walk asks for, and where it leads. -/
theorem enter_eq_ok_iff {next : Place} {name : String} : t.enter p q name = .ok next ↔
    t.file? q = none ∧ t.isDirectory q ∧ name.utf8ByteSize ≤ maxNameBytes ∧
      next = q.step name := by
  rw [enter]
  by_cases hfile : (t.file? q).isSome
  · simp [hfile, Option.isSome_iff_ne_none.1 hfile]
  · rw [if_neg hfile]
    rw [Option.not_isSome_iff_eq_none] at hfile
    by_cases hdirectory : t.isDirectory q
    · by_cases hlong : maxNameBytes < name.utf8ByteSize
      · simp [hdirectory, hlong, Nat.not_le.2 hlong]
      · simp [hfile, hdirectory, hlong, Nat.not_lt.1 hlong, eq_comm]
    · simp [hdirectory]

theorem isDirectory_of_enter {next : Place} {name : String} (h : t.enter p q name = .ok next) :
    t.isDirectory q := (enter_eq_ok_iff.1 h).2.1

/-- A path is walked name by name, if its text is one that paths may have. -/
theorem walk_eq_ok_iff : t.walk p = .ok place ↔ '\x00' ∉ p.text.toList ∧
    p.text.utf8ByteSize ≤ maxPathBytes ∧ p.names.foldlM (t.enter p) (.start p) = .ok place := by
  rw [walk]
  by_cases hnull : '\x00' ∈ p.text.toList
  · simp [hnull]
  · by_cases hlong : maxPathBytes < p.text.utf8ByteSize
    · simp [hnull, hlong, Nat.not_le.2 hlong]
    · simp [hnull, hlong, Nat.not_lt.1 hlong]

/-- Steps that lead where they led before lead there one after the other. -/
theorem foldlM_of_enter {p' : Path} (henter : ∀ start name next,
    t.enter p start name = .ok next → t'.enter p' start name = .ok next) :
    ∀ {names : List String} {start : Place}, names.foldlM (t.enter p) start = .ok q →
      names.foldlM (t'.enter p') start = .ok q
  | [], _, h => h
  | name :: names, start, h => by
    rw [List.foldlM_cons] at h ⊢
    obtain ⟨next, hnext, hrest⟩ := bind_eq_ok.1 h
    exact bind_eq_ok.2 ⟨next, henter start name next hnext, foldlM_of_enter henter hrest⟩

/-- A tree in which every step of a walk leads where it led before. -/
theorem walk_of_enter (henter : ∀ start name next, t.enter p start name = .ok next →
    t'.enter p start name = .ok next) (h : t.walk p = .ok q) : t'.walk p = .ok q := by
  obtain ⟨hnull, hlength, hsteps⟩ := walk_eq_ok_iff.1 h
  exact walk_eq_ok_iff.2 ⟨hnull, hlength, foldlM_of_enter henter hsteps⟩

/-- A walk goes through directories alone, and no new file is put at one. -/
theorem walk_setFile (hplace : ¬t.isDirectory place) (h : t.walk p = .ok q) :
    (t.setFile place f).walk p = .ok q := by
  refine walk_of_enter (fun start name next hnext => ?_) h
  obtain ⟨hfile, hdirectory, hlength, rfl⟩ := enter_eq_ok_iff.1 hnext
  have hne : start ≠ place := fun heq => hplace (heq ▸ hdirectory)
  exact enter_eq_ok_iff.2 ⟨(file?_setFile_of_ne hne).trans hfile, hdirectory, hlength, rfl⟩

/-! ## Texts of files -/

/-- A path leads to a file with a text. -/
def Holds (t : Tree) (p : Path) (text : String) : Prop :=
  ∃ place f, t.walk p = .ok place ∧ ¬t.isDirectory place ∧ t.file? place = some f ∧ f.text = text

theorem Holds.contains (h : t.Holds p text) : t.contains p = .ok true := by
  obtain ⟨place, f, hwalk, -, hfile, -⟩ := h
  rw [Tree.contains, hwalk]
  simp [isPresent, hfile]

theorem Holds.read (h : t.Holds p text) :
    t.read p = .ok (String.ofList (Text.plainLineEnds text.toList)) := by
  obtain ⟨place, f, hwalk, hdirectory, hfile, rfl⟩ := h
  refine bind_eq_ok.2 ⟨place, hwalk, ?_⟩
  rw [if_neg hdirectory, hfile]
  rfl

/-- What is read is the text of a file, with plain line ends. -/
theorem exists_holds_of_read (h : t.read p = .ok text) : ∃ raw, t.Holds p raw ∧
    text = String.ofList (Text.plainLineEnds raw.toList) := by
  obtain ⟨place, hwalk, h⟩ := bind_eq_ok.1 h
  by_cases hdirectory : t.isDirectory place
  · rw [if_pos hdirectory] at h
    cases h
  · rw [if_neg hdirectory] at h
    cases hfile : t.file? place with
    | none =>
      rw [hfile] at h
      cases h
    | some f =>
      rw [hfile] at h
      exact ⟨f.text, ⟨place, f, hwalk, hdirectory, hfile, rfl⟩, (Except.ok.inj h).symm⟩

theorem contains_of_read (h : t.read p = .ok text) : t.contains p = .ok true := by
  obtain ⟨raw, hholds, -⟩ := exists_holds_of_read h
  exact hholds.contains

theorem holds_setFile (hplace : ¬t.isDirectory place) (h : t.walk p = .ok place) :
    (t.setFile place f).Holds p f.text :=
  ⟨place, f, walk_setFile hplace h, hplace, file?_setFile_self, rfl⟩

theorem write_eq (t : Tree) (p : Path) (text : String) : t.write p text =
    match t.walk p with
    | .error e => .error e
    | .ok place =>
      if t.isDirectory place then .error (.isDirectory p.text)
      else .ok (t.setFile place ⟨text, ((t.file? place).map (·.mode)).getD .everyone⟩) := by
  unfold Tree.write
  cases t.walk p with
  | error e => rfl
  | ok place =>
    change (if t.isDirectory place then _ else _) = if t.isDirectory place then _ else _
    by_cases hdirectory : t.isDirectory place
    · rw [if_pos hdirectory, if_pos hdirectory]
      rfl
    · rw [if_neg hdirectory, if_neg hdirectory]
      rfl

theorem write_eq_ok_iff : t.write p text = .ok t' ↔ ∃ place, t.walk p = .ok place ∧
    ¬t.isDirectory place ∧
      t' = t.setFile place ⟨text, ((t.file? place).map (·.mode)).getD .everyone⟩ := by
  rw [write_eq]
  cases t.walk p with
  | error e => simp
  | ok place =>
    dsimp only
    by_cases hdirectory : t.isDirectory place
    · simp [hdirectory]
    · rw [if_neg hdirectory]
      constructor
      · exact fun h => ⟨place, rfl, hdirectory, (Except.ok.inj h).symm⟩
      · rintro ⟨_, ⟨⟩, -, rfl⟩
        rfl

theorem holds_of_write (h : t.write p text = .ok t') : t'.Holds p text := by
  obtain ⟨place, hwalk, hdirectory, rfl⟩ := write_eq_ok_iff.1 h
  exact holds_setFile hdirectory hwalk

/-- Setting the mode of a file always succeeds and keeps its text. -/
theorem Holds.setMode (h : t.Holds p text) (mode : FileMode) :
    ∃ t', t.setMode p mode = .ok t' ∧ t'.Holds p text := by
  obtain ⟨place, f, hwalk, hdirectory, hfile, rfl⟩ := h
  refine ⟨t.setFile place { f with mode }, bind_eq_ok.2 ⟨place, hwalk, ?_⟩,
    holds_setFile (f := { f with mode }) hdirectory hwalk⟩
  rw [hfile]
  rfl

/-- Setting the mode of a file that was just put in its place. -/
theorem setMode_setFile {mode : FileMode} (hdirectory : ¬t.isDirectory place)
    (hwalk : t.walk p = .ok place) :
    (t.setFile place f).setMode p mode = .ok (t.setFile place { f with mode }) := by
  have hwalk' := walk_setFile (f := f) hdirectory hwalk
  unfold Tree.setMode
  rw [hwalk']
  dsimp only [bind, Except.bind]
  rw [file?_setFile_self]
  exact congrArg Except.ok setFile_setFile

/-- Where nothing can be written, there is nothing to read. -/
theorem unread_of_write_eq_error {e : Failure} (h : t.write p text = .error e) :
    t.contains p = .ok false ∨ (∃ e, t.contains p = .error e) ∨ ∃ e, t.read p = .error e := by
  cases hwalk : t.walk p with
  | error e =>
    rw [Tree.contains, hwalk]
    cases e <;> simp
  | ok place =>
    have hdirectory : t.isDirectory place := by
      by_contra hnot
      rw [Tree.write, hwalk] at h
      change (if t.isDirectory place then _ else _) = _ at h
      rw [if_neg hnot] at h
      cases h
    refine .inr (.inr ⟨.isDirectory p.text, ?_⟩)
    rw [Tree.read, hwalk]
    change (if t.isDirectory place then _ else _) = _
    rw [if_pos hdirectory]
    rfl

end StackCompiler.Tree
