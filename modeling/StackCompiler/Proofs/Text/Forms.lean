import StackCompiler.Proofs.Text.Language

/-!
# The forms in words

What a slug and what an e-mail address is, said about the text as a whole: `HasSlugForm` and
`HasMailForm`. The texts that are accepted are those of the form, and these with one line feed at
their end (`isSlug_iff`, `isEmail_iff`).
-/

namespace StackCompiler.Text

variable {c : Char} {cs : List Char} {s : String}

/-! ## Lines -/

/-- The characters that end a line. -/
def isLineEnd (c : Char) : Bool :=
  let n := c.toNat
  (10 ≤ n && n ≤ 13) || (28 ≤ n && n ≤ 30) || n == 133 || n == 8232 || n == 8233

theorem isBlank_of_isLineEnd (h : isLineEnd c) : isBlank c := by
  simp only [isLineEnd, isBlank, Bool.or_eq_true, Bool.and_eq_true, decide_eq_true_eq,
    beq_iff_eq] at h ⊢
  omega

theorem Unbroken.not_isLineEnd (h : Unbroken cs) (hc : c ∈ cs) : ¬isLineEnd c := by
  intro hend
  have hblank := isBlank_of_isLineEnd hend
  rw [h c hc] at hblank
  cases hblank

/-! ## Slugs -/

/-- Lower case letters, digits and hyphens, of which the first is a letter and the last is not a
hyphen. -/
structure HasSlugForm (cs : List Char) : Prop where
  ne_nil : cs ≠ []
  first : ∀ c, cs.head? = some c → 'a' ≤ c ∧ c ≤ 'z'
  last : ∀ c, cs.getLast? = some c → ('a' ≤ c ∧ c ≤ 'z') ∨ ('0' ≤ c ∧ c ≤ '9')
  all : ∀ c ∈ cs, ('a' ≤ c ∧ c ≤ 'z') ∨ ('0' ≤ c ∧ c ≤ '9') ∨ c = '-'

theorem isSlugChars_iff : isSlugChars cs ↔ HasSlugForm cs := by
  simp only [isSlugChars, Bool.and_eq_true, List.all_eq_true]
  constructor
  · rintro ⟨⟨hall, hfirst⟩, hlast⟩
    refine ⟨?_, fun c hc => ?_, fun c hc => ?_, fun c hc => isSlugChar_iff.1 (hall c hc)⟩
    · rintro rfl
      cases hfirst
    · rw [hc] at hfirst
      exact isSlugStart_iff.1 hfirst
    · rw [hc] at hlast
      exact isSlugEnd_iff.1 hlast
  · rintro ⟨hne, hfirst, hlast, hall⟩
    refine ⟨⟨fun c hc => isSlugChar_iff.2 (hall c hc), ?_⟩, ?_⟩
    · rw [List.head?_eq_some_head hne]
      exact isSlugStart_iff.2 (hfirst _ (List.head?_eq_some_head hne))
    · rw [List.getLast?_eq_some_getLast hne]
      exact isSlugEnd_iff.2 (hlast _ (List.getLast?_eq_some_getLast hne))

theorem isSlug_iff : isSlug s ↔
    HasSlugForm s.toList ∨ ∃ cs, HasSlugForm cs ∧ s.toList = cs ++ ['\n'] := by
  rw [isSlug_iff_isLine, IsLine]
  simp only [mem_slugLanguage_iff, isSlugChars_iff]

theorem HasSlugForm.unbroken (h : HasSlugForm cs) : Unbroken cs := fun c hc =>
  not_isBlank_of_isSlugChar (isSlugChar_iff.2 (h.all c hc))

/-! ## E-mail addresses -/

/-- A local part, one `@`, and a domain with a point that has a character on each side; there is no
blank anywhere. -/
structure HasMailForm (cs : List Char) : Prop where
  parts : ∃ user name suffix, user ≠ [] ∧ name ≠ [] ∧ suffix ≠ [] ∧
    cs = user ++ '@' :: (name ++ '.' :: suffix)
  one_sign : cs.count '@' = 1
  unbroken : Unbroken cs

theorem isMailChar_iff : isMailChar c ↔ isBlank c = false ∧ c ≠ '@' := by
  simp [isMailChar]

theorem all_isMailChar_iff : (∀ c ∈ cs, isMailChar c) ↔ Unbroken cs ∧ '@' ∉ cs := by
  simp only [isMailChar_iff, Unbroken]
  constructor
  · exact fun h => ⟨fun c hc => (h c hc).1, fun hmem => (h _ hmem).2 rfl⟩
  · rintro ⟨hunbroken, hnot⟩ c hc
    exact ⟨hunbroken c hc, fun heq => hnot (heq ▸ hc)⟩

/-- The sign between its two parts is the only one of an address, so that none of its parts has
another. -/
theorem hasMailForm_iff : HasMailForm cs ↔ ∃ user name suffix,
    (user ≠ [] ∧ ∀ c ∈ user, isMailChar c) ∧ (name ≠ [] ∧ ∀ c ∈ name, isMailChar c) ∧
      (suffix ≠ [] ∧ ∀ c ∈ suffix, isMailChar c) ∧
      cs = user ++ '@' :: (name ++ '.' :: suffix) := by
  simp only [all_isMailChar_iff]
  constructor
  · rintro ⟨⟨user, name, suffix, huser, hname, hsuffix, rfl⟩, hone, hunbroken⟩
    have hcount : user.count '@' = 0 ∧ name.count '@' = 0 ∧ suffix.count '@' = 0 := by
      simp only [List.count_append, List.count_cons_self,
        List.count_cons_of_ne (show '.' ≠ '@' by decide)] at hone
      omega
    simp only [List.count_eq_zero] at hcount
    obtain ⟨hbefore, hafter⟩ := unbroken_append.1 hunbroken
    obtain ⟨-, hdomain⟩ := List.forall_mem_cons.1 hafter
    obtain ⟨hstart, hend⟩ := unbroken_append.1 hdomain
    exact ⟨user, name, suffix, ⟨huser, hbefore, hcount.1⟩, ⟨hname, hstart, hcount.2.1⟩,
      ⟨hsuffix, (List.forall_mem_cons.1 hend).2, hcount.2.2⟩, rfl⟩
  · rintro ⟨user, name, suffix, ⟨huser, hbefore, hsign₁⟩, ⟨hname, hstart, hsign₂⟩,
      ⟨hsuffix, hend, hsign₃⟩, rfl⟩
    refine ⟨⟨user, name, suffix, huser, hname, hsuffix, rfl⟩, ?_, ?_⟩
    · simp only [List.count_append, List.count_cons_self,
        List.count_cons_of_ne (show '.' ≠ '@' by decide), List.count_eq_zero_of_not_mem hsign₁,
        List.count_eq_zero_of_not_mem hsign₂, List.count_eq_zero_of_not_mem hsign₃]
    · have hdomain : Unbroken (name ++ '.' :: suffix) :=
        unbroken_append.2 ⟨hstart, List.forall_mem_cons.2 ⟨by decide, hend⟩⟩
      exact unbroken_append.2 ⟨hbefore, List.forall_mem_cons.2 ⟨by decide, hdomain⟩⟩

/-- A point is inside a domain where it parts it into two texts that are not empty. -/
theorem hasInnerPoint_iff : hasInnerPoint cs ↔
    ∃ name suffix, name ≠ [] ∧ suffix ≠ [] ∧ cs = name ++ '.' :: suffix := by
  rw [hasInnerPoint, List.contains_iff_mem]
  constructor
  · intro hmem
    cases cs with
    | nil => cases hmem
    | cons c rest =>
      rw [List.drop_one, List.tail_cons] at hmem
      obtain ⟨before, after, hsplit⟩ := List.append_of_mem hmem
      have hne : rest ≠ [] := by
        rintro rfl
        cases hmem
      refine ⟨c :: before, after ++ [rest.getLast hne], List.cons_ne_nil _ _, by simp, ?_⟩
      calc c :: rest = c :: (rest.dropLast ++ [rest.getLast hne]) := by
            rw [List.dropLast_append_getLast]
        _ = c :: before ++ '.' :: (after ++ [rest.getLast hne]) := by
            rw [hsplit, List.append_assoc, List.cons_append, List.cons_append]
  · rintro ⟨name, suffix, hname, hsuffix, rfl⟩
    obtain ⟨c, rest, rfl⟩ := List.exists_cons_of_ne_nil hname
    rw [List.cons_append, List.drop_one, List.tail_cons,
      List.dropLast_append_of_ne_nil (List.cons_ne_nil _ _), List.dropLast_cons_of_ne_nil hsuffix]
    exact List.mem_append_right _ (List.mem_cons_self ..)

theorem isEmail_iff_hasMailForm : isEmail s ↔ HasMailForm (dropFinalNewline s.toList) := by
  rw [isEmail, hasMailForm_iff]
  generalize dropFinalNewline s.toList = cs
  constructor
  · intro h
    have hsplit := List.takeWhile_append_dropWhile (p := isMailChar) (l := cs)
    rw [List.span_eq_takeWhile_dropWhile] at h
    split at h
    · rename_i user domain heq
      obtain ⟨huser, hdomain⟩ := Prod.mk.inj heq
      simp only [Bool.and_eq_true, List.all_eq_true, Bool.not_eq_true', List.isEmpty_eq_false_iff]
        at h
      obtain ⟨⟨hne, hall⟩, hpoint⟩ := h
      obtain ⟨name, suffix, hname, hsuffix, rfl⟩ := hasInnerPoint_iff.1 hpoint
      obtain ⟨hbefore, hafter⟩ := List.forall_mem_append.1 hall
      refine ⟨user, name, suffix, ⟨hne, fun c hc => ?_⟩, ⟨hname, hbefore⟩,
        ⟨hsuffix, (List.forall_mem_cons.1 hafter).2⟩, ?_⟩
      · rw [← huser] at hc
        exact List.mem_takeWhile_imp hc
      · rw [← hsplit, huser, hdomain]
    · cases h
  · rintro ⟨user, name, suffix, ⟨huser, hbefore⟩, ⟨hname, hstart⟩, ⟨hsuffix, hend⟩, rfl⟩
    have hdomain : ∀ c ∈ name ++ '.' :: suffix, isMailChar c :=
      List.forall_mem_append.2 ⟨hstart, List.forall_mem_cons.2 ⟨by decide, hend⟩⟩
    -- The scan for the local part stops at the sign, and not before.
    have hspan : (user ++ '@' :: (name ++ '.' :: suffix)).span isMailChar =
        (user, '@' :: (name ++ '.' :: suffix)) := by
      rw [List.span_eq_takeWhile_dropWhile, List.takeWhile_append_of_pos hbefore,
        List.dropWhile_append_of_pos hbefore, List.takeWhile_cons_of_neg (by decide),
        List.dropWhile_cons_of_neg (by decide), List.append_nil]
    rw [hspan]
    simp only [Bool.and_eq_true, List.all_eq_true, Bool.not_eq_true', List.isEmpty_eq_false_iff]
    exact ⟨⟨huser, hdomain⟩, hasInnerPoint_iff.2 ⟨name, suffix, hname, hsuffix, rfl⟩⟩

/-- The expression `[^\s@]+@[^\s@]+\.[^\s@]+`. -/
def mailLanguage : Language Char :=
  someOf isMailChar * literal "@" * someOf isMailChar * literal "." * someOf isMailChar

theorem mem_mailLanguage_iff : cs ∈ mailLanguage ↔ HasMailForm cs := by
  rw [mailLanguage, hasMailForm_iff]
  simp only [mul_assoc]
  constructor
  · intro h
    obtain ⟨user, huser, _, hsign, rfl⟩ := Language.mem_mul.1 h
    obtain ⟨_, hdomain, rfl⟩ := mem_literal_mul.1 hsign
    obtain ⟨name, hname, _, hpoint, rfl⟩ := Language.mem_mul.1 hdomain
    obtain ⟨suffix, hsuffix, rfl⟩ := mem_literal_mul.1 hpoint
    exact ⟨user, name, suffix, mem_someOf.1 huser, mem_someOf.1 hname, mem_someOf.1 hsuffix, rfl⟩
  · rintro ⟨user, name, suffix, huser, hname, hsuffix, rfl⟩
    have hpoint : '.' :: suffix ∈ literal "." * someOf isMailChar :=
      mem_literal_mul.2 ⟨suffix, mem_someOf.2 hsuffix, rfl⟩
    have hdomain : name ++ '.' :: suffix ∈
        someOf isMailChar * (literal "." * someOf isMailChar) :=
      Language.mem_mul.2 ⟨name, mem_someOf.2 hname, _, hpoint, rfl⟩
    have hsign : '@' :: (name ++ '.' :: suffix) ∈
        literal "@" * (someOf isMailChar * (literal "." * someOf isMailChar)) :=
      mem_literal_mul.2 ⟨_, hdomain, rfl⟩
    exact Language.mem_mul.2 ⟨user, mem_someOf.2 huser, _, hsign, rfl⟩

theorem isEmail_iff_isLine : isEmail s ↔ IsLine mailLanguage s := by
  rw [isLine_iff, mem_mailLanguage_iff, isEmail_iff_hasMailForm]
  intro cs hmem hlast
  have hblank := (mem_mailLanguage_iff.1 hmem).unbroken _ (List.mem_of_getLast? hlast)
  exact absurd hblank (by decide)

theorem isEmail_iff : isEmail s ↔
    HasMailForm s.toList ∨ ∃ cs, HasMailForm cs ∧ s.toList = cs ++ ['\n'] := by
  rw [isEmail_iff_isLine, IsLine]
  simp only [mem_mailLanguage_iff]

end StackCompiler.Text
