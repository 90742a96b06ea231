import StackCompiler.Text.Split

/-!
# Texts without separators

A text without a separator is one piece, or the first of the pieces where a separator follows it, and
the last piece ends in it where it stands at the end. No piece has a separator, and pieces without
one that are put together are found again (`pieces_intercalate`). A text without carriage returns
has plain line ends.
-/

namespace StackCompiler.Text

theorem pieces_cons {separator c : Char} {cs : List Char} : pieces separator (c :: cs) =
    if c = separator then [] :: pieces separator cs
    else match pieces separator cs with
      | [] => [[c]]
      | p :: ps => (c :: p) :: ps :=
  rfl

theorem pieces_of_not_mem {separator : Char} : ∀ {cs : List Char}, separator ∉ cs →
    pieces separator cs = [cs]
  | [], _ => rfl
  | c :: cs, h => by
    rw [List.mem_cons, not_or] at h
    rw [pieces_cons, if_neg (Ne.symm h.1), pieces_of_not_mem h.2]

theorem pieces_append_cons {separator : Char} (after : List Char) : ∀ {before : List Char},
    separator ∉ before →
      pieces separator (before ++ separator :: after) = before :: pieces separator after
  | [], _ => by rw [List.nil_append, pieces_cons, if_pos rfl]
  | c :: before, h => by
    rw [List.mem_cons, not_or] at h
    rw [List.cons_append, pieces_cons, if_neg (Ne.symm h.1), pieces_append_cons after h.2]

theorem exists_pieces_eq_cons (separator : Char) : ∀ cs : List Char,
    ∃ p ps, pieces separator cs = p :: ps
  | [] => ⟨[], [], rfl⟩
  | c :: cs => by
    rw [pieces_cons]
    split
    · exact ⟨_, _, rfl⟩
    · split <;> exact ⟨_, _, rfl⟩

theorem pieces_eq_splitOn (separator : Char) : ∀ cs : List Char,
    pieces separator cs = cs.splitOn separator
  | [] => rfl
  | c :: cs => by
    obtain ⟨p, ps, hpieces⟩ := exists_pieces_eq_cons separator cs
    have hrest := pieces_eq_splitOn separator cs
    rw [hpieces] at hrest
    rw [pieces_cons, hpieces, List.splitOn_cons_eq_if_modifyHead, ← hrest]
    simp only [beq_iff_eq, List.modifyHead_cons]

/-- A text that is put together from pieces is cut into them again. -/
theorem pieces_intercalate {separator : Char} {ps : List (List Char)} (hne : ps ≠ [])
    (h : ∀ p ∈ ps, separator ∉ p) : pieces separator ([separator].intercalate ps) = ps := by
  rw [pieces_eq_splitOn, List.splitOn_intercalate separator h hne]

/-- Where the text also ends in a separator, the last piece is empty. -/
theorem pieces_intercalate_append {separator : Char} {ps : List (List Char)} (hne : ps ≠ [])
    (h : ∀ p ∈ ps, separator ∉ p) :
    pieces separator ([separator].intercalate ps ++ [separator]) = ps ++ [[]] := by
  rw [pieces_eq_splitOn, List.splitOn_append_cons_self, List.splitOn_intercalate separator h hne]
  rfl

theorem not_mem_of_mem_pieces {separator : Char} : ∀ {cs piece : List Char},
    piece ∈ pieces separator cs → separator ∉ piece
  | [], _, h => by
    rw [List.mem_singleton.1 h]
    exact List.not_mem_nil
  | c :: cs, _, h => by
    obtain ⟨p, ps, hpieces⟩ := exists_pieces_eq_cons separator cs
    have ih : ∀ q ∈ pieces separator cs, separator ∉ q := fun _ hq => not_mem_of_mem_pieces hq
    rw [hpieces] at ih
    rw [pieces_cons, hpieces] at h
    by_cases hc : c = separator
    · rw [if_pos hc] at h
      rcases List.mem_cons.1 h with rfl | h
      · exact List.not_mem_nil
      · exact ih _ h
    · rw [if_neg hc] at h
      rcases List.mem_cons.1 h with rfl | h
      · rw [List.mem_cons, not_or]
        exact ⟨Ne.symm hc, ih p List.mem_cons_self⟩
      · exact ih _ (List.mem_cons_of_mem p h)

/-- The last piece of a text ends as the text does, up to the last separator. -/
theorem exists_getLast?_pieces {separator : Char} {last : List Char} (h : separator ∉ last) :
    ∀ cs : List Char, ∃ start, (pieces separator (cs ++ last)).getLast? = some (start ++ last)
  | [] => ⟨[], by rw [List.nil_append, pieces_of_not_mem h]; rfl⟩
  | c :: cs => by
    obtain ⟨start, hlast⟩ := exists_getLast?_pieces h cs
    obtain ⟨p, ps, hpieces⟩ := exists_pieces_eq_cons separator (cs ++ last)
    rw [hpieces] at hlast
    rw [List.cons_append, pieces_cons, hpieces]
    by_cases hc : c = separator
    · rw [if_pos hc]
      exact ⟨start, hlast⟩
    · rw [if_neg hc]
      cases ps with
      | nil =>
        obtain rfl := Option.some.inj hlast
        exact ⟨c :: start, rfl⟩
      | cons p' ps => exact ⟨start, hlast⟩

theorem plainLineEnds_of_forall_ne : ∀ {cs : List Char}, (∀ c ∈ cs, c ≠ '\r') →
    plainLineEnds cs = cs
  | [], _ => rfl
  | c :: cs, h => by
    obtain ⟨hc, hcs⟩ := List.forall_mem_cons.1 h
    rw [plainLineEnds, plainLineEnds_of_forall_ne hcs]
    · exact fun _ heq _ => hc heq
    · exact hc

end StackCompiler.Text
