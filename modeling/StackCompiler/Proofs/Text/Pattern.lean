import Mathlib.Data.List.Basic
import Mathlib.Data.List.TakeDrop
import Mathlib.Data.List.TakeWhile
import StackCompiler.Text.Pattern

/-!
# Slugs and addresses

The characters of slugs, and when an address of a scheme and what follows it has the form of a web
address: it must begin with neither a slash nor a blank, and there must be no blank anywhere but one
line feed at the end (`isHttpUrl_iff`).
-/

namespace StackCompiler.Text

/-! ## The final line feed -/

theorem dropFinalNewline_append {cs ds : List Char} (h : ds ≠ []) :
    dropFinalNewline (cs ++ ds) = cs ++ dropFinalNewline ds := by
  unfold dropFinalNewline
  rw [List.getLast?_append_of_ne_nil _ h, List.dropLast_append_of_ne_nil h]
  split <;> rfl

theorem dropFinalNewline_of_not_mem {cs : List Char} (h : '\n' ∉ cs) :
    dropFinalNewline cs = cs := by
  unfold dropFinalNewline
  split
  · rename_i hlast
    exact absurd (List.mem_of_getLast? hlast) h
  · rfl

theorem dropFinalNewline_append_last (cs : List Char) : ∃ last, (last = [] ∨ last = ['\n']) ∧
    dropFinalNewline cs ++ last = cs := by
  unfold dropFinalNewline
  split
  · rename_i hlast
    exact ⟨['\n'], .inr rfl, List.dropLast_append_getLast? _ hlast⟩
  · exact ⟨[], .inl rfl, List.append_nil cs⟩

theorem mem_of_mem_dropFinalNewline {cs : List Char} {c : Char} (h : c ∈ dropFinalNewline cs) :
    c ∈ cs := by
  unfold dropFinalNewline at h
  split at h
  · exact List.dropLast_subset cs h
  · exact h

/-! ## Slugs -/

theorem isSlugStart_iff {c : Char} : isSlugStart c ↔ 'a' ≤ c ∧ c ≤ 'z' := by
  simp [isSlugStart]

theorem isSlugEnd_iff {c : Char} : isSlugEnd c ↔ ('a' ≤ c ∧ c ≤ 'z') ∨ ('0' ≤ c ∧ c ≤ '9') := by
  simp [isSlugEnd, isSlugStart]

theorem isSlugChar_iff {c : Char} :
    isSlugChar c ↔ ('a' ≤ c ∧ c ≤ 'z') ∨ ('0' ≤ c ∧ c ≤ '9') ∨ c = '-' := by
  simp [isSlugChar, isSlugEnd, isSlugStart, or_assoc]

theorem toNat_of_isSlugChar {c : Char} (h : isSlugChar c) : 45 ≤ c.toNat ∧ c.toNat ≤ 122 := by
  rcases isSlugChar_iff.1 h with ⟨h₁, h₂⟩ | ⟨h₁, h₂⟩ | rfl
  · have : 97 ≤ c.toNat := h₁
    have : c.toNat ≤ 122 := h₂
    omega
  · have : 48 ≤ c.toNat := h₁
    have : c.toNat ≤ 57 := h₂
    omega
  · decide

theorem not_isBlank_of_isSlugChar {c : Char} (h : isSlugChar c) : isBlank c = false := by
  have hn := toNat_of_isSlugChar h
  simp only [isBlank, Bool.or_eq_false_iff, Bool.and_eq_false_iff, decide_eq_false_iff_not,
    beq_eq_false_iff_ne]
  omega

/-- A slug begins with a letter. -/
theorem exists_cons_of_isSlug {s : String} (h : isSlug s) :
    ∃ c cs, s.toList = c :: cs ∧ isSlugStart c := by
  simp only [isSlug, isSlugChars, Bool.and_eq_true] at h
  obtain ⟨⟨-, hstart⟩, -⟩ := h
  cases hs : s.toList with
  | nil =>
    rw [hs] at hstart
    cases hstart
  | cons c cs =>
    refine ⟨c, cs, rfl, ?_⟩
    rw [hs] at hstart
    unfold dropFinalNewline at hstart
    cases cs with
    | nil =>
      split at hstart
      · cases hstart
      · simpa using hstart
    | cons d ds =>
      split at hstart <;> simpa using hstart

theorem isSlugChar_of_isSlug {s : String} (h : isSlug s) {c : Char}
    (hc : c ∈ dropFinalNewline s.toList) : isSlugChar c := by
  simp only [isSlug, isSlugChars, Bool.and_eq_true, List.all_eq_true] at h
  exact h.1.1 c hc

/-- A slug has no other characters, but for a line feed at its end. -/
theorem isSlugChar_or_eq_of_isSlug {s : String} (h : isSlug s) {c : Char} (hc : c ∈ s.toList) :
    isSlugChar c ∨ c = '\n' := by
  obtain ⟨last, hlast, heq⟩ := dropFinalNewline_append_last s.toList
  rw [← heq, List.mem_append] at hc
  rcases hc with hc | hc
  · exact .inl (isSlugChar_of_isSlug h hc)
  · rcases hlast with rfl | rfl
    · exact absurd hc List.not_mem_nil
    · exact .inr (List.mem_singleton.1 hc)

/-- No character of a slug is blank, unless it ends in a line feed. -/
theorem not_isBlank_of_isSlug {s : String} (h : isSlug s) (hs : '\n' ∉ s.toList) {c : Char}
    (hc : c ∈ s.toList) : isBlank c = false := by
  rw [← dropFinalNewline_of_not_mem hs] at hc
  exact not_isBlank_of_isSlugChar (isSlugChar_of_isSlug h hc)

/-! ## Web addresses -/

/-- Whether no character is blank. -/
def Unbroken (cs : List Char) : Prop := ∀ c ∈ cs, isBlank c = false

instance (cs : List Char) : Decidable (Unbroken cs) :=
  decidable_of_iff (cs.all fun c => !isBlank c) (by simp [Unbroken])

/-- Stripping only takes blanks away. -/
theorem strip_of_unbroken {cs : List Char} (h : Unbroken cs) : strip cs = cs := by
  have hnone : ∀ ds : List Char, Unbroken ds → ds.dropWhile isBlank = ds := by
    rintro (_ | ⟨d, ds⟩) hds
    · rfl
    · exact List.dropWhile_cons_of_neg (by simp [hds d (List.mem_cons_self ..)])
  have hreverse : Unbroken cs.reverse := fun c hc => h c (List.mem_reverse.1 hc)
  rw [strip, dropBlanks, hnone cs h, dropTrailingBlanks, dropWhileEnd, hnone _ hreverse,
    List.reverse_reverse]

theorem unbroken_append {cs ds : List Char} : Unbroken (cs ++ ds) ↔ Unbroken cs ∧ Unbroken ds :=
  List.forall_mem_append

theorem unbroken_dropFinalNewline {cs : List Char} (h : Unbroken cs) :
    Unbroken (dropFinalNewline cs) := fun c hc => h c (mem_of_mem_dropFinalNewline hc)

theorem isAuthorityAndPath_cons_iff {c : Char} {cs : List Char} (hc : c ≠ '/') :
    isAuthorityAndPath (c :: cs) ↔ Unbroken (c :: cs) := by
  have happend : (c :: cs).takeWhile (fun c => !isBlank c && c != '/') ++
      (c :: cs).dropWhile (fun c => !isBlank c && c != '/') = c :: cs :=
    List.takeWhile_append_dropWhile
  have hauthority : Unbroken ((c :: cs).takeWhile fun c => !isBlank c && c != '/') := by
    intro d hd
    have := List.mem_takeWhile_imp hd
    simp only [Bool.and_eq_true, Bool.not_eq_true'] at this
    exact this.1
  simp only [isAuthorityAndPath, List.span_eq_takeWhile_dropWhile, Bool.and_eq_true,
    List.all_eq_true, Bool.not_eq_true']
  constructor
  · rintro ⟨-, hpath⟩
    rw [← happend]
    exact unbroken_append.2 ⟨hauthority, hpath⟩
  · intro h
    refine ⟨?_, fun d hd => h d ((List.dropWhile_sublist _).subset hd)⟩
    have hblank : isBlank c = false := h c (List.mem_cons_self ..)
    simp [hblank, hc]

/-- What follows the scheme must not begin with a slash, and have no blanks but one line feed at the
end. -/
theorem isHttpUrl_iff {s scheme : String} {c : Char} {cs : List Char}
    (hscheme : scheme = "http" ∨ scheme = "https")
    (hs : s.toList = scheme.toList ++ "://".toList ++ c :: cs) (hc : c ≠ '/') (hcs : cs ≠ []) :
    isHttpUrl s ↔ Unbroken (c :: dropFinalNewline cs) := by
  have hdrop : dropFinalNewline s.toList =
      scheme.toList ++ "://".toList ++ c :: dropFinalNewline cs := by
    rw [hs, dropFinalNewline_append (List.cons_ne_nil c cs)]
    have hrest : dropFinalNewline ([c] ++ cs) = [c] ++ dropFinalNewline cs :=
      dropFinalNewline_append hcs
    exact congrArg _ hrest
  rw [← isAuthorityAndPath_cons_iff hc, isHttpUrl, hdrop]
  rcases hscheme with rfl | rfl
  · have hplain : dropStart? "http://".toList
        ("http".toList ++ "://".toList ++ c :: dropFinalNewline cs) =
        some (c :: dropFinalNewline cs) := rfl
    have hsecure : dropStart? "https://".toList
        ("http".toList ++ "://".toList ++ c :: dropFinalNewline cs) = none := rfl
    simp only [List.any_cons, List.any_nil, hplain, hsecure, Option.map_some, Option.map_none,
      Option.getD_some, Option.getD_none, Bool.or_false]
  · have hplain : dropStart? "http://".toList
        ("https".toList ++ "://".toList ++ c :: dropFinalNewline cs) = none := rfl
    have hsecure : dropStart? "https://".toList
        ("https".toList ++ "://".toList ++ c :: dropFinalNewline cs) =
        some (c :: dropFinalNewline cs) := rfl
    simp only [List.any_cons, List.any_nil, hplain, hsecure, Option.map_some, Option.map_none,
      Option.getD_some, Option.getD_none, Bool.or_false, Bool.false_or]

theorem eq_append_of_dropStart? : ∀ {start cs rest : List Char}, dropStart? start cs = some rest →
    cs = start ++ rest
  | [], _, _, h => Option.some.inj h
  | _ :: _, [], _, h => by cases h
  | c :: start, d :: cs, rest, h => by
    rw [dropStart?] at h
    split at h
    · rename_i heq
      rw [eq_append_of_dropStart? h, heq]
      rfl
    · cases h

theorem dropStart?_append : ∀ start rest : List Char, dropStart? start (start ++ rest) = some rest
  | [], _ => rfl
  | c :: start, rest => by rw [List.cons_append, dropStart?, if_pos rfl, dropStart?_append]

theorem isSome_dropStart?_iff {start cs : List Char} :
    (dropStart? start cs).isSome ↔ start <+: cs := by
  constructor
  · intro h
    obtain ⟨rest, hrest⟩ := Option.isSome_iff_exists.1 h
    exact ⟨rest, (eq_append_of_dropStart? hrest).symm⟩
  · rintro ⟨rest, rfl⟩
    rw [dropStart?_append]
    rfl

theorem occursIn_iff {part : List Char} : ∀ {cs : List Char}, occursIn part cs ↔ part <:+: cs
  | [] => by rw [occursIn, List.isEmpty_iff, List.infix_nil]
  | c :: cs => by
    rw [occursIn, Bool.or_eq_true, isSome_dropStart?_iff, occursIn_iff, List.infix_cons_iff]

theorem follows_iff {start cs : List Char} :
    ((dropStart? start cs).map isAuthorityAndPath).getD false ↔
      ∃ rest, isAuthorityAndPath rest ∧ cs = start ++ rest := by
  constructor
  · intro h
    cases hdrop : dropStart? start cs with
    | none =>
      rw [hdrop] at h
      cases h
    | some rest =>
      rw [hdrop] at h
      exact ⟨rest, h, eq_append_of_dropStart? hdrop⟩
  · rintro ⟨rest, hrest, rfl⟩
    rw [dropStart?_append, Option.map_some, Option.getD_some, hrest]

theorem unbroken_of_isAuthorityAndPath {cs : List Char} (h : isAuthorityAndPath cs) :
    Unbroken cs := by
  cases cs with
  | nil => simp [Unbroken]
  | cons c cs =>
    by_cases hc : c = '/'
    · simp [isAuthorityAndPath, List.span_eq_takeWhile_dropWhile, hc] at h
    · exact (isAuthorityAndPath_cons_iff hc).1 h

/-- A web address is a scheme and what follows it, which has no blanks. -/
theorem exists_of_isHttpUrl {s : String} (h : isHttpUrl s) : ∃ scheme rest,
    (scheme = "http" ∨ scheme = "https") ∧
      dropFinalNewline s.toList = scheme.toList ++ "://".toList ++ rest ∧ Unbroken rest := by
  simp only [isHttpUrl, List.any_cons, List.any_nil, Bool.or_false, Bool.or_eq_true,
    follows_iff] at h
  rcases h with ⟨rest, hrest, heq⟩ | ⟨rest, hrest, heq⟩
  · exact ⟨"http", rest, .inl rfl, heq, unbroken_of_isAuthorityAndPath hrest⟩
  · exact ⟨"https", rest, .inr rfl, heq, unbroken_of_isAuthorityAndPath hrest⟩

end StackCompiler.Text
