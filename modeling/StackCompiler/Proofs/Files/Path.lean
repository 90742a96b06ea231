import Mathlib.Data.String.Basic
import StackCompiler.Files.Path
import StackCompiler.Proofs.Text.Split

/-!
# Names of paths

The names of a path are the pieces of its text between slashes (`Path.splitOn_slash`). A text without
slashes is one name, and joining it to a path adds that name (`Path.join_name`). A text that ends in
something without slashes leads to a name that ends in the same way (`Path.exists_getLast?_join`).
-/

namespace StackCompiler.Path

/-! ## Pieces between slashes -/

/-- Splitting goes on with the pieces of what is left, the first of which continues what was read
since the last slash. -/
theorem splitOnAux_slash : ∀ (cs before done : List Char) (found : List String) {p : List Char}
    {ps : List (List Char)}, Text.pieces '/' cs = p :: ps →
      (String.ofList (before ++ done ++ cs)).splitOnAux "/" ⟨String.utf8Len before⟩
        ⟨String.utf8Len (before ++ done)⟩ 0 found =
        found.reverse ++ String.ofList (done ++ p) :: ps.map String.ofList
  | [], before, done, found, p, ps, h => by
    cases h
    have hend : String.Pos.Raw.atEnd (String.ofList (before ++ done ++ []))
        ⟨String.utf8Len (before ++ done)⟩ = true := (String.atEnd_of_valid (before ++ done) []).2 rfl
    have hextract := String.extract_of_valid before done []
    rw [← String.utf8Len_append] at hextract
    rw [String.splitOnAux, if_pos hend, hextract]
    simp
  | c :: cs, before, done, found, p, ps, h => by
    have hend : ¬String.Pos.Raw.atEnd (String.ofList (before ++ done ++ c :: cs))
        ⟨String.utf8Len (before ++ done)⟩ = true := fun hend =>
      List.cons_ne_nil _ _ ((String.atEnd_of_valid (before ++ done) (c :: cs)).1 hend)
    have hget : String.Pos.Raw.get (String.ofList (before ++ done ++ c :: cs))
        ⟨String.utf8Len (before ++ done)⟩ = c := String.get_of_valid (before ++ done) (c :: cs)
    have hslash : String.Pos.Raw.get "/" 0 = '/' := rfl
    have hlast : String.utf8Len [c] = c.utf8Size := by simp
    have hnext : String.Pos.Raw.next (String.ofList (before ++ done ++ c :: cs))
        ⟨String.utf8Len (before ++ done)⟩ = ⟨String.utf8Len (before ++ done ++ [c])⟩ := by
      rw [String.utf8Len_append (before ++ done), hlast]
      exact String.next_of_valid (before ++ done) c cs
    rw [String.splitOnAux, if_neg hend, hget, hslash]
    by_cases hc : c = '/'
    · subst hc
      rw [Text.pieces, if_pos rfl] at h
      obtain ⟨rfl, rfl⟩ := List.cons.inj h
      obtain ⟨p', ps', hrest⟩ := Text.exists_pieces_eq_cons '/' cs
      have hafter : String.Pos.Raw.atEnd "/" (String.Pos.Raw.next "/" 0) = true := rfl
      have hback : String.Pos.Raw.unoffsetBy ⟨String.utf8Len (before ++ done ++ ['/'])⟩
          (String.Pos.Raw.next "/" 0) = ⟨String.utf8Len (before ++ done)⟩ := by
        rw [String.utf8Len_append (before ++ done), hlast]
        exact congrArg String.Pos.Raw.mk (Nat.add_sub_cancel ..)
      have hextract := String.extract_of_valid before done ('/' :: cs)
      rw [← String.utf8Len_append] at hextract
      have ih := splitOnAux_slash cs (before ++ done ++ ['/']) [] (String.ofList done :: found) hrest
      simp only [List.append_nil, List.append_assoc, List.singleton_append] at ih hnext hback hextract ⊢
      rw [if_pos (beq_self_eq_true _), hnext, if_pos hafter, hback, hextract, ih, hrest]
      simp
    · have hne : ¬(c == '/') = true := fun heq => hc (beq_iff_eq.1 heq)
      obtain ⟨p', ps', hrest⟩ := Text.exists_pieces_eq_cons '/' cs
      rw [Text.pieces, if_neg hc, hrest] at h
      obtain ⟨rfl, rfl⟩ := List.cons.inj h
      have ih := splitOnAux_slash cs before (done ++ [c]) found hrest
      have hback : String.Pos.Raw.unoffsetBy ⟨String.utf8Len (before ++ done)⟩ 0 =
          ⟨String.utf8Len (before ++ done)⟩ := rfl
      rw [if_neg hne, hback, hnext]
      simp only [List.append_assoc, List.singleton_append] at ih ⊢
      exact ih

theorem splitOn_slash (s : String) :
    s.splitOn "/" = (Text.pieces '/' s.toList).map String.ofList := by
  obtain ⟨p, ps, hpieces⟩ := Text.exists_pieces_eq_cons '/' s.toList
  have haux := splitOnAux_slash s.toList [] [] [] hpieces
  rw [List.nil_append, List.nil_append, String.ofList_toList] at haux
  rw [hpieces]
  exact haux

theorem ofString_eq (s : String) : ofString s =
    ⟨rootOf s, ((Text.pieces '/' s.toList).map String.ofList).filter isProper⟩ := by
  rw [ofString, splitOn_slash]

/-! ## Single names -/

theorem splitOn_of_not_mem {name : String} (hslash : '/' ∉ name.toList) :
    name.splitOn "/" = [name] := by
  rw [splitOn_slash, Text.pieces_of_not_mem hslash, List.map_singleton, String.ofList_toList]

theorem rootOf_of_ne_slash {s : String} {c : Char} {cs : List Char} (h : s.toList = c :: cs)
    (hc : c ≠ '/') : rootOf s = "" := by
  have hnone : (c :: cs).takeWhile (· == '/') = [] :=
    List.takeWhile_cons_of_neg fun heq => hc (beq_iff_eq.1 heq)
  rw [rootOf, h, hnone]

theorem rootOf_of_not_mem {s : String} (h : '/' ∉ s.toList) : rootOf s = "" := by
  cases hs : s.toList with
  | nil =>
    rw [rootOf, hs]
    rfl
  | cons c cs =>
    rw [hs, List.mem_cons, not_or] at h
    exact rootOf_of_ne_slash hs (Ne.symm h.1)

theorem ofString_name {name : String} (hslash : '/' ∉ name.toList) (hproper : isProper name) :
    ofString name = ⟨"", [name]⟩ := by
  rw [ofString, splitOn_of_not_mem hslash, rootOf_of_not_mem hslash,
    List.filter_cons_of_pos hproper, List.filter_nil]

theorem ofString_dot : ofString "." = {} := by
  rw [ofString, splitOn_of_not_mem (by decide), rootOf_of_not_mem (by decide)]
  rfl

theorem join_name {name : String} (hslash : '/' ∉ name.toList) (hproper : isProper name)
    (p : Path) : p.join name = { p with names := p.names ++ [name] } := by
  rw [join, ofString_name hslash hproper]
  rfl

/-- A text that does not start with a slash adds its names. -/
theorem join_of_ne_slash {s : String} {c : Char} {cs : List Char} (h : s.toList = c :: cs)
    (hc : c ≠ '/') (p : Path) : p.join s = { p with names := p.names ++ (ofString s).names } := by
  have hroot : (ofString s).root = "" := rootOf_of_ne_slash h hc
  rw [join, hroot]
  rfl

/-! ## Last names -/

section

variable {ending : String} (hslash : '/' ∉ ending.toList) (hlength : 2 < ending.toList.length)

include hslash hlength

theorem exists_getLast?_ofString (s : String) :
    ∃ start, (ofString (s ++ ending)).names.getLast? = some (start ++ ending) := by
  obtain ⟨start, hlast⟩ := Text.exists_getLast?_pieces hslash s.toList
  have hsplit : ((s ++ ending).splitOn "/").getLast? = some (String.ofList start ++ ending) := by
    rw [splitOn_slash, List.getLast?_map, String.toList_append, hlast, Option.map_some,
      String.ofList_append, String.ofList_toList]
  have hproper : isProper (String.ofList start ++ ending) := by
    have hlong : 2 < (String.ofList start ++ ending).toList.length := by
      rw [String.toList_append, List.length_append]
      omega
    simp only [isProper, Bool.and_eq_true, bne_iff_ne]
    refine ⟨fun heq => ?_, fun heq => ?_⟩
    · rw [heq] at hlong
      exact absurd hlong (by decide)
    · rw [heq] at hlong
      exact absurd hlong (by decide)
  obtain ⟨names, hnames⟩ := List.getLast?_eq_some_iff.1 hsplit
  refine ⟨String.ofList start, ?_⟩
  rw [ofString, hnames, List.filter_append, List.filter_cons_of_pos hproper, List.filter_nil,
    List.getLast?_concat]

theorem exists_getLast?_join (p : Path) (s : String) :
    ∃ start, (p.join (s ++ ending)).names.getLast? = some (start ++ ending) := by
  obtain ⟨start, hlast⟩ := exists_getLast?_ofString hslash hlength s
  refine ⟨start, ?_⟩
  rw [join]
  split
  · rw [List.getLast?_append, hlast, Option.some_or]
  · exact hlast

/-- The place of a path ends in the last name of the path. -/
theorem exists_getLast?_ofPath_join (p : Path) (s : String) :
    ∃ start, (Place.ofPath (p.join (s ++ ending))).getLast? = some (start ++ ending) := by
  obtain ⟨start, hlast⟩ := exists_getLast?_join hslash hlength p s
  obtain ⟨names, hnames⟩ := List.getLast?_eq_some_iff.1 hlast
  have hstep : start ++ ending ≠ ".." := by
    intro heq
    have hlong : 2 < (start ++ ending).toList.length := by
      rw [String.toList_append, List.length_append]
      omega
    rw [heq] at hlong
    exact absurd hlong (by decide)
  refine ⟨start, ?_⟩
  rw [Place.ofPath, hnames, List.foldl_append, List.foldl_cons, List.foldl_nil, Place.step,
    if_neg hstep, List.getLast?_concat]

end

/-- Names that end differently are different. -/
theorem append_ne_append {ending ending' : String} (hne : ¬ending.toList <:+ ending'.toList)
    (hne' : ¬ending'.toList <:+ ending.toList) (start start' : String) :
    start ++ ending ≠ start' ++ ending' := by
  intro heq
  have hsame := congrArg String.toList heq
  rw [String.toList_append, String.toList_append] at hsame
  have hsuffix : ending.toList <:+ start'.toList ++ ending'.toList := hsame ▸ List.suffix_append ..
  have hsuffix' : ending'.toList <:+ start'.toList ++ ending'.toList := List.suffix_append ..
  rcases Nat.le_total ending.toList.length ending'.toList.length with hle | hle
  · exact hne (List.suffix_of_suffix_length_le hsuffix hsuffix' hle)
  · exact hne' (List.suffix_of_suffix_length_le hsuffix' hsuffix hle)

/-- Files whose names end differently are in different places. -/
theorem ofPath_join_ne {ending ending' : String} (hslash : '/' ∉ ending.toList)
    (hslash' : '/' ∉ ending'.toList) (hlength : 2 < ending.toList.length)
    (hlength' : 2 < ending'.toList.length) (hne : ¬ending.toList <:+ ending'.toList)
    (hne' : ¬ending'.toList <:+ ending.toList) (p p' : Path) (s s' : String) :
    Place.ofPath (p.join (s ++ ending)) ≠ .ofPath (p'.join (s' ++ ending')) := by
  intro heq
  obtain ⟨start, hlast⟩ := exists_getLast?_ofPath_join hslash hlength p s
  obtain ⟨start', hlast'⟩ := exists_getLast?_ofPath_join hslash' hlength' p' s'
  rw [heq, hlast'] at hlast
  exact append_ne_append hne hne' start start' (Option.some.inj hlast).symm

end StackCompiler.Path
