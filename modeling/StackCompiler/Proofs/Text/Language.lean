import Mathlib.Computability.Language
import StackCompiler.Proofs.Text.Pattern

/-!
# Forms as expressions

The forms of slugs and of web addresses are decided by hand-written functions. Here they are the
expressions that messages show for them, as languages, searched for between the start of a text and
its end or the line feed at its end (`isSlug_iff_isLine`, `isHttpUrl_iff_isLine`).
-/

namespace StackCompiler.Text

open scoped Computability

/-! ## Expressions -/

/-- One character of a class. -/
def charIn (p : Char → Bool) : Language Char := {cs | ∃ c, p c ∧ cs = [c]}

/-- One or more characters of a class. -/
def someOf (p : Char → Bool) : Language Char := charIn p * (charIn p)∗

def literal (s : String) : Language Char := {s.toList}

/-- The text is in the language, but perhaps for a line feed at its end. -/
def IsLine (l : Language Char) (s : String) : Prop :=
  s.toList ∈ l ∨ ∃ cs ∈ l, s.toList = cs ++ ['\n']

/-- The expression `[a-z][a-z0-9-]*[a-z0-9]|[a-z]`. -/
def slugLanguage : Language Char :=
  charIn isSlugStart * (charIn isSlugChar)∗ * charIn isSlugEnd + charIn isSlugStart

/-- A character that is neither blank nor a slash. -/
def isAuthorityChar (c : Char) : Bool := !isBlank c && c != '/'

/-- The expression `[^\s/]+(/[^\s]*)?`. -/
def authorityLanguage : Language Char :=
  charIn isAuthorityChar * (charIn isAuthorityChar)∗ *
    (1 + literal "/" * (charIn fun c => !isBlank c)∗)

/-- The expression `https?://[^\s/]+(/[^\s]*)?`. -/
def httpUrlLanguage : Language Char :=
  literal "http" * (1 + literal "s") * literal "://" * authorityLanguage

section

variable {p : Char → Bool} {cs : List Char} {s : String} {l : Language Char}

theorem mem_charIn : cs ∈ charIn p ↔ ∃ c, p c ∧ cs = [c] := Iff.rfl

theorem mem_literal : cs ∈ literal s ↔ cs = s.toList := Iff.rfl

theorem mem_literal_mul : cs ∈ literal s * l ↔ ∃ rest ∈ l, cs = s.toList ++ rest := by
  rw [Language.mem_mul]
  constructor
  · rintro ⟨start, hstart, rest, hrest, rfl⟩
    exact ⟨rest, hrest, by rw [mem_literal.1 hstart]⟩
  · rintro ⟨rest, hrest, rfl⟩
    exact ⟨_, rfl, rest, hrest, rfl⟩

theorem mem_charIn_mul : cs ∈ charIn p * l ↔ ∃ c rest, p c ∧ rest ∈ l ∧ cs = c :: rest := by
  rw [Language.mem_mul]
  constructor
  · rintro ⟨_, ⟨c, hc, rfl⟩, rest, hrest, rfl⟩
    exact ⟨c, rest, hc, hrest, rfl⟩
  · rintro ⟨c, rest, hc, hrest, rfl⟩
    exact ⟨[c], ⟨c, hc, rfl⟩, rest, hrest, rfl⟩

/-- Any number of characters of a class. -/
theorem mem_kstar_charIn : cs ∈ (charIn p)∗ ↔ ∀ c ∈ cs, p c := by
  rw [Language.mem_kstar]
  constructor
  · rintro ⟨pieces, rfl, hpieces⟩ c hc
    obtain ⟨piece, hpiece, hmem⟩ := List.mem_flatten.1 hc
    obtain ⟨d, hd, rfl⟩ := hpieces piece hpiece
    exact List.mem_singleton.1 hmem ▸ hd
  · intro h
    refine ⟨cs.map fun c => [c], ?_, ?_⟩
    · rw [← List.flatMap_def, List.flatMap_singleton']
    · intro piece hpiece
      obtain ⟨c, hc, rfl⟩ := List.mem_map.1 hpiece
      exact ⟨c, h c hc, rfl⟩

theorem mem_someOf : cs ∈ someOf p ↔ cs ≠ [] ∧ ∀ c ∈ cs, p c := by
  rw [someOf, mem_charIn_mul]
  simp only [mem_kstar_charIn]
  constructor
  · rintro ⟨c, rest, hc, hrest, rfl⟩
    exact ⟨List.cons_ne_nil _ _, List.forall_mem_cons.2 ⟨hc, hrest⟩⟩
  · rintro ⟨hne, hall⟩
    obtain ⟨c, rest, rfl⟩ := List.exists_cons_of_ne_nil hne
    obtain ⟨hc, hrest⟩ := List.forall_mem_cons.1 hall
    exact ⟨c, rest, hc, hrest, rfl⟩

/-! ## Lines -/

/-- Where no text of a language ends in a line feed, one is left out of account. -/
theorem isLine_iff (hl : ∀ cs ∈ l, cs.getLast? ≠ some '\n') :
    IsLine l s ↔ dropFinalNewline s.toList ∈ l := by
  constructor
  · rintro (hmem | ⟨cs, hmem, heq⟩)
    · rwa [dropFinalNewline, if_neg (hl _ hmem)]
    · rwa [heq, dropFinalNewline, if_pos List.getLast?_concat, List.dropLast_concat]
  · intro hmem
    obtain ⟨last, rfl | rfl, heq⟩ := dropFinalNewline_append_last s.toList
    · rw [List.append_nil] at heq
      exact .inl (heq ▸ hmem)
    · exact .inr ⟨_, hmem, heq.symm⟩

end

/-! ## Slugs -/

theorem mem_slugLanguage_iff {cs : List Char} : cs ∈ slugLanguage ↔ isSlugChars cs := by
  have hend : ∀ {c : Char}, isSlugStart c → isSlugEnd c := fun h => by simp [isSlugEnd, h]
  have hchar : ∀ {c : Char}, isSlugEnd c → isSlugChar c := fun h => by simp [isSlugChar, h]
  rw [slugLanguage, Language.mem_add, mul_assoc, mem_charIn_mul, mem_charIn]
  simp only [isSlugChars, Bool.and_eq_true, List.all_eq_true]
  constructor
  · rintro (⟨c, _, hc, ⟨middle, hmiddle, _, ⟨d, hd, rfl⟩, rfl⟩, rfl⟩ | ⟨c, hc, rfl⟩)
    · refine ⟨⟨fun x hx => ?_, hc⟩, ?_⟩
      · rcases List.mem_cons.1 hx with rfl | hx
        · exact hchar (hend hc)
        · rcases List.mem_append.1 hx with hx | hx
          · exact mem_kstar_charIn.1 hmiddle x hx
          · exact List.mem_singleton.1 hx ▸ hchar hd
      · rw [← List.cons_append, List.getLast?_concat]
        exact hd
    · exact ⟨⟨fun x hx => List.mem_singleton.1 hx ▸ hchar (hend hc), hc⟩, hend hc⟩
  · rintro ⟨⟨hall, hstart⟩, hlast⟩
    cases cs with
    | nil => cases hstart
    | cons c rest =>
      rcases List.eq_nil_or_concat rest with rfl | ⟨middle, d, rfl⟩
      · exact .inr ⟨c, hstart, rfl⟩
      · rw [List.concat_eq_append] at hall hlast ⊢
        rw [← List.cons_append, List.getLast?_concat] at hlast
        refine .inl ⟨c, _, hstart, ⟨middle, mem_kstar_charIn.2 fun x hx => ?_, [d],
          ⟨d, hlast, rfl⟩, rfl⟩, rfl⟩
        exact hall x (List.mem_cons_of_mem _ (List.mem_append_left _ hx))

theorem isSlug_iff_isLine {s : String} : isSlug s ↔ IsLine slugLanguage s := by
  rw [isLine_iff, mem_slugLanguage_iff, isSlug]
  intro cs hmem hlast
  rw [mem_slugLanguage_iff] at hmem
  simp only [isSlugChars, Bool.and_eq_true, hlast] at hmem
  exact absurd hmem.2 (by decide)

/-! ## Web addresses -/

/-- After the authority, which is as long as can be, there is nothing, or a path that begins with
the slash that ends the authority. -/
theorem mem_authorityLanguage_iff {cs : List Char} :
    cs ∈ authorityLanguage ↔ isAuthorityAndPath cs := by
  have hpath : ∀ {path : List Char}, path ∈ (1 + literal "/" * (charIn fun c => !isBlank c)∗) ↔
      path = [] ∨ ∃ rest, (∀ c ∈ rest, !isBlank c) ∧ path = '/' :: rest := by
    intro path
    rw [Language.mem_add, Language.mem_one, mem_literal_mul]
    simp only [mem_kstar_charIn]
    rfl
  rw [authorityLanguage, Language.mem_mul]
  simp only [isAuthorityAndPath, List.span_eq_takeWhile_dropWhile, Bool.and_eq_true,
    List.all_eq_true]
  change _ ↔ (!(cs.takeWhile isAuthorityChar).isEmpty) = true ∧
    ∀ c ∈ cs.dropWhile isAuthorityChar, (!isBlank c) = true
  constructor
  · rintro ⟨authority, hauthority, path, hmem, rfl⟩
    obtain ⟨hne, hall⟩ := mem_someOf.1 hauthority
    rw [List.takeWhile_append_of_pos hall, List.dropWhile_append_of_pos hall]
    refine ⟨by simp [hne], ?_⟩
    rcases hpath.1 hmem with rfl | ⟨rest, hunbroken, rfl⟩
    · simp
    · rw [List.dropWhile_cons_of_neg (by decide)]
      exact List.forall_mem_cons.2 ⟨by decide, hunbroken⟩
  · rintro ⟨hauthority, hunbroken⟩
    refine ⟨cs.takeWhile isAuthorityChar, ?_, cs.dropWhile isAuthorityChar, ?_,
      List.takeWhile_append_dropWhile⟩
    · have hne : cs.takeWhile isAuthorityChar ≠ [] := by
        simpa only [Bool.not_eq_true', List.isEmpty_eq_false_iff] using hauthority
      exact mem_someOf.2 ⟨hne, fun _ hx => List.mem_takeWhile_imp hx⟩
    · cases hdrop : cs.dropWhile isAuthorityChar with
      | nil => exact hpath.2 (.inl rfl)
      | cons c rest =>
        rw [hdrop] at hunbroken
        obtain ⟨hc, hrest⟩ := List.forall_mem_cons.1 hunbroken
        have hslash : c = '/' := by
          have hstop : ¬isAuthorityChar c := by
            have := List.head?_dropWhile_not isAuthorityChar cs
            rw [hdrop] at this
            simpa using this
          simpa [isAuthorityChar, hc] using hstop
        exact hpath.2 (.inr ⟨rest, hrest, by rw [hslash]⟩)

theorem mem_httpUrlLanguage_iff {cs : List Char} : cs ∈ httpUrlLanguage ↔
    ∃ scheme ∈ ["http://".toList, "https://".toList], ∃ rest, isAuthorityAndPath rest ∧
      cs = scheme ++ rest := by
  rw [httpUrlLanguage, mul_assoc, mul_assoc, mem_literal_mul, add_mul, one_mul]
  simp only [Language.mem_add, mem_literal_mul, mem_authorityLanguage_iff, List.mem_cons,
    List.not_mem_nil, or_false]
  constructor
  · rintro ⟨_, ⟨rest, hrest, rfl⟩ | ⟨_, ⟨rest, hrest, rfl⟩, rfl⟩, rfl⟩
    · exact ⟨_, .inl rfl, rest, hrest, rfl⟩
    · exact ⟨_, .inr rfl, rest, hrest, rfl⟩
  · rintro ⟨_, rfl | rfl, rest, hrest, rfl⟩
    · exact ⟨_, .inl ⟨rest, hrest, rfl⟩, rfl⟩
    · exact ⟨_, .inr ⟨_, ⟨rest, hrest, rfl⟩, rfl⟩, rfl⟩

theorem isHttpUrl_iff_isLine {s : String} : isHttpUrl s ↔ IsLine httpUrlLanguage s := by
  rw [isLine_iff, mem_httpUrlLanguage_iff, isHttpUrl, List.any_eq_true]
  · simp only [follows_iff]
  · intro cs hmem hlast
    obtain ⟨scheme, hscheme, rest, hrest, rfl⟩ := mem_httpUrlLanguage_iff.1 hmem
    have hplain : ∀ scheme ∈ ["http://".toList, "https://".toList], '\n' ∉ scheme := by decide
    rcases List.mem_append.1 (List.mem_of_getLast? hlast) with h | h
    · exact hplain scheme hscheme h
    · exact absurd (unbroken_of_isAuthorityAndPath hrest _ h) (by decide)

end StackCompiler.Text
