import StackCompiler.Proofs.Files.Path

/-!
# Places below a directory

A path that is joined to a directory leads below it, wherever the directory is, unless its steps
back lead out of it (`Place.foldl_step_cases`). A single name leads to one file in the directory
(`Place.ofPath_join_of_isName`).
-/

namespace StackCompiler

/-! ## Names without slashes -/

theorem Path.slash_not_mem_names (s : String) : "/" ∉ (Path.ofString s).names := by
  intro hmem
  rw [Path.ofString_eq] at hmem
  obtain ⟨piece, hpiece, heq⟩ := List.mem_map.1 (List.mem_of_mem_filter hmem)
  have hlist := congrArg String.toList heq
  rw [String.toList_ofList] at hlist
  refine Text.not_mem_of_mem_pieces hpiece ?_
  rw [hlist]
  decide

namespace Place

/-! ## Names that lead down -/

/-- Each of the names leads from a directory to what is in it. -/
def LeadDown (names : List String) : Prop := ∀ name ∈ names, name ≠ ".." ∧ name ≠ "/"

/-- A place that some names lead down to from another one. -/
def IsBelow (q p : Place) : Prop := ∃ names, names ≠ [] ∧ LeadDown names ∧ q = p ++ names

instance (names : List String) : Decidable (LeadDown names) :=
  inferInstanceAs (Decidable (∀ name ∈ names, name ≠ ".." ∧ name ≠ "/"))

theorem isBelow_append_iff {p : Place} {names : List String} :
    IsBelow (p ++ names) p ↔ names ≠ [] ∧ LeadDown names := by
  constructor
  · rintro ⟨names', hne, hdown, heq⟩
    obtain rfl := List.append_cancel_left heq
    exact ⟨hne, hdown⟩
  · rintro ⟨hne, hdown⟩
    exact ⟨names, hne, hdown, rfl⟩

theorem isBelow_here_iff {q : Place} : IsBelow q here ↔ q ≠ [] ∧ LeadDown q :=
  isBelow_append_iff (p := [])

/-! ## Steps -/

theorem step_of_ne {p : Place} {name : String} (h : name ≠ "..") : step p name = p ++ [name] :=
  if_neg h

/-- Names without steps back are added. -/
theorem foldl_step_of_not_mem : ∀ {names : List String} {p : Place}, ".." ∉ names →
    names.foldl step p = p ++ names
  | [], p, _ => (List.append_nil p).symm
  | name :: names, p, h => by
    rw [List.mem_cons, not_or] at h
    rw [List.foldl_cons, step_of_ne (Ne.symm h.1), foldl_step_of_not_mem h.2, List.append_assoc,
      List.singleton_append]

/-- A step back leaves the last of the names that led down. -/
theorem parent_append {p : Place} {names : List String} {name : String}
    (h : name ≠ ".." ∧ name ≠ "/") : parent (p ++ (names ++ [name])) = p ++ names := by
  have hroot : ¬(p ++ (names ++ [name]) == root) = true := fun heq => by
    have hlast := congrArg List.getLast? (beq_iff_eq.1 heq)
    rw [← List.append_assoc, List.getLast?_concat] at hlast
    exact h.2 (Option.some.inj hlast)
  have hback : ¬(p ++ (names ++ [name])).all (· == "..") = true := fun hall => by
    rw [List.all_eq_true] at hall
    exact h.1 (beq_iff_eq.1 (hall name (by simp)))
  rw [parent, if_neg hroot, if_neg hback, ← List.append_assoc, List.dropLast_concat]

/-- Whoever has stepped out of the starting place stays outside. -/
theorem head?_step {p : Place} {name : String} (h : p.head? = some "..") :
    (step p name).head? = some ".." := by
  obtain ⟨rest, rfl⟩ := List.head?_eq_some_iff.1 h
  unfold step parent
  split
  · split
    · rename_i hroot
      exact absurd (beq_iff_eq.1 hroot) (by simp [root])
    · split
      · rfl
      · rename_i hback
        cases rest with
        | nil => exact absurd rfl hback
        | cons name rest => rfl
  · rfl

theorem head?_foldl_step {names : List String} {p : Place} (h : p.head? = some "..") :
    (names.foldl step p).head? = some ".." := by
  induction names generalizing p with
  | nil => exact h
  | cons name names ih => exact ih (head?_step h)

/-- Names lead out of the starting place, or else they lead down from any place in the same way. -/
theorem foldl_step_cases (p : Place) {names : List String} (hslash : "/" ∉ names) {q : Place}
    (hq : LeadDown q) : (names.foldl step q).head? = some ".." ∨
      LeadDown (names.foldl step q) ∧ names.foldl step (p ++ q) = p ++ names.foldl step q := by
  induction names generalizing q with
  | nil => exact .inr ⟨hq, rfl⟩
  | cons name names ih =>
    rw [List.mem_cons, not_or] at hslash
    rw [List.foldl_cons, List.foldl_cons]
    by_cases hback : name = ".."
    · rw [step, if_pos hback, step, if_pos hback]
      rcases List.eq_nil_or_concat q with rfl | ⟨init, last, rfl⟩
      · exact .inl (head?_foldl_step rfl)
      · rw [List.concat_eq_append] at hq ⊢
        have hlast := hq last (by simp)
        rw [parent_append hlast, ← List.nil_append (init ++ [last]), parent_append hlast]
        exact ih hslash.2 fun n hn => hq n (List.mem_append_left _ hn)
    · rw [step_of_ne hback, step_of_ne hback, List.append_assoc]
      refine ih hslash.2 fun n hn => ?_
      rcases List.mem_append.1 hn with hn | hn
      · exact hq n hn
      · rw [List.mem_singleton.1 hn]
        exact ⟨hback, Ne.symm hslash.1⟩

/-- A path that never leads out of the working directory leads below any other one instead, when it
is joined to it. -/
theorem ofPath_append {names : List String} (hslash : "/" ∉ names)
    (h : ".." ∉ ofPath { names }) (directory : Path) :
    LeadDown (ofPath { names }) ∧
      ofPath { directory with names := directory.names ++ names } =
        ofPath directory ++ ofPath { names } := by
  rcases foldl_step_cases (ofPath directory) hslash (q := []) (by simp [LeadDown]) with hout | hdown
  · exact absurd (List.mem_of_mem_head? hout) h
  · rw [List.append_nil] at hdown
    refine ⟨hdown.1, ?_⟩
    rw [ofPath, List.foldl_append]
    exact hdown.2

end Place

/-! ## Single names -/

/-- A text that is the name of one file in whatever directory it is joined to. -/
def Path.IsName (name : String) : Prop := '/' ∉ name.toList ∧ isProper name ∧ name ≠ ".."

instance (name : String) : Decidable (Path.IsName name) :=
  inferInstanceAs (Decidable ('/' ∉ name.toList ∧ Path.isProper name ∧ name ≠ ".."))

theorem Place.ofPath_join_of_isName {name : String} (h : Path.IsName name) (p : Path) :
    ofPath (p.join name) = ofPath p ++ [name] := by
  rw [Path.join_name h.1 h.2.1, ofPath, List.foldl_append]
  exact step_of_ne h.2.2

/-- A name that ends in a file type is no step. -/
theorem Path.isName_append (start ending : String) (hstart : '/' ∉ start.toList)
    (hending : '/' ∉ ending.toList) (hlength : 2 < ending.toList.length) :
    IsName (start ++ ending) := by
  have hlong : 2 < (start ++ ending).toList.length := by
    rw [String.toList_append, List.length_append]
    omega
  have hne : ∀ short : String, short.toList.length ≤ 2 → start ++ ending ≠ short := by
    rintro short hshort rfl
    omega
  refine ⟨?_, ?_, hne ".." (by decide)⟩
  · rw [String.toList_append, List.mem_append, not_or]
    exact ⟨hstart, hending⟩
  · rw [isProper, Bool.and_eq_true, bne_iff_ne, bne_iff_ne]
    exact ⟨hne "" (by decide), hne "." (by decide)⟩

end StackCompiler
