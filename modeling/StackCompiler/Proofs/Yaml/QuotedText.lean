import StackCompiler.Proofs.Yaml.PlainText

/-!
# Reading quoted texts

`Closes isDouble rest body text` says that a body and the mark after it are read as a text. Each way
to write a character or a gap adds it in front of the body; so a text is read as it was written
between apostrophes (`Folded.closes`) and between quotation marks (`Escaped.closes`).
-/

namespace StackCompiler.Yaml

variable {cs ds w rest text : List Char} {b c : Char} {i l k n width : Nat} {next : Cursor}

/-! ## Quoted scalars -/

theorem quotedScalar_go_succ (isDouble : Bool) (mark : Char) (fuel : Nat) (acc : List (List Char))
    (c : Cursor) : quotedScalar.go isDouble mark (fuel + 1) acc c =
      if !isDouble && c.peek == mark && c.peekAt 1 == mark then
        quotedScalar.go isDouble mark fuel ([mark] :: acc) (c.advanceBy 2)
      else if c.peek == mark then .ok (acc.reverse.flatten, c.advance)
      else if isDouble && c.peek == '\\' then
        match escapeSequence c.advance with
        | .ok (cs, c) => quotedScalar.go isDouble mark fuel (cs :: acc) c
        | .error f => .error f
      else if isGap c.peek then
        match quotedGap c with
        | .ok (cs, c) => quotedScalar.go isDouble mark fuel (cs :: acc) c
        | .error f => .error f
      else
        let (run, next) := c.takeWhile fun d => !(isGap d || d == mark || d == '\\')
        let (run, next) := if run.isEmpty then ([c.peek], next.advance) else (run, next)
        quotedScalar.go isDouble mark fuel (run :: acc) next := (rfl)

/-- It does not matter how the characters read so far are cut into pieces. -/
theorem quotedScalar_go_acc (isDouble : Bool) (mark : Char) : ∀ (fuel : Nat)
    {acc acc' : List (List Char)} (c : Cursor), acc.reverse.flatten = acc'.reverse.flatten →
      quotedScalar.go isDouble mark fuel acc c = quotedScalar.go isDouble mark fuel acc' c
  | 0, _, _, _, _ => rfl
  | fuel + 1, acc, acc', c, h => by
    have hcons : ∀ (cs : List Char) (c : Cursor), quotedScalar.go isDouble mark fuel (cs :: acc) c =
        quotedScalar.go isDouble mark fuel (cs :: acc') c := fun cs c =>
      quotedScalar_go_acc isDouble mark fuel c (by simp [h])
    rw [quotedScalar_go_succ, quotedScalar_go_succ]
    dsimp only
    simp only [hcons, h]

/-- The mark of a kind of quoted scalars. -/
def quote (isDouble : Bool) : Char := if isDouble then '"' else '\''

/-- A body between marks, of which the second is followed by the rest, stands for a text. -/
structure Closes (isDouble : Bool) (rest body text : List Char) : Prop where
  chars : ∀ c ∈ body, isWrittenChar c
  reads : ∀ (fuel : Nat) (acc : List (List Char)) (i l k : Nat), body.length < fuel →
    quotedScalar.go isDouble (quote isDouble) fuel acc
        (.before (body ++ quote isDouble :: rest) i l k) =
      .ok (acc.reverse.flatten ++ text, .past (body ++ [quote isDouble]) rest i l k)

variable {isDouble : Bool} {body : List Char}

theorem isPlainAscii_quote (isDouble : Bool) : isPlainAscii (quote isDouble) := by
  cases isDouble <;> decide

theorem isGap_quote (isDouble : Bool) : isGap (quote isDouble) = false := by
  cases isDouble <;> decide

/-- The closing mark. Between apostrophes, another one must not follow. -/
theorem Closes.nil (h : isDouble = false → rest.headD '\x00' ≠ '\'') :
    Closes isDouble rest [] [] := by
  refine ⟨fun c hc => absurd hc List.not_mem_nil, ?_⟩
  rintro (_ | fuel) acc i l k hfuel
  · exact absurd hfuel (Nat.not_lt_zero _)
  · have hline := Cursor.isOnLine_of_isPlainAscii (isPlainAscii_quote isDouble)
    have hdouble : (!isDouble && (quote isDouble == quote isDouble) &&
        rest.headD '\x00' == quote isDouble) = false := by
      cases isDouble with
      | true => rfl
      | false => simpa [quote] using h rfl
    rw [quotedScalar_go_succ, Cursor.peek_before, Cursor.peekAt_before, List.nil_append,
      List.headD_cons, List.drop_one, List.tail_cons, hdouble, Cursor.advance_before hline,
      List.nil_append, Cursor.past_line (List.forall_mem_singleton.2 hline.1)]
    simp

/-- A character that stands for itself, in a run of such characters. -/
def isOrdinary (isDouble : Bool) (c : Char) : Bool := !(isGap c || c == quote isDouble || c == '\\')

theorem isPlainAscii_of_isOrdinary (h : isWrittenChar c) (hc : isOrdinary isDouble c) :
    isPlainAscii c := by
  refine isPlainAscii_of_isWrittenChar h ?_
  rintro rfl
  simp [isOrdinary, isGap, isBreak] at hc

theorem quotedScalar_go_ordinary (fuel : Nat) (acc : List (List Char)) (hc : isOrdinary isDouble c)
    (hline : Cursor.IsOnLine c) :
    quotedScalar.go isDouble (quote isDouble) (fuel + 1) acc (.before (c :: cs) i l k) =
      let (run, next) := (Cursor.before cs (i + 1) l (k + 1)).takeWhile (isOrdinary isDouble)
      quotedScalar.go isDouble (quote isDouble) fuel ((c :: run) :: acc) next := by
  have hordinary := hc
  rw [isOrdinary, Bool.not_eq_true', Bool.or_eq_false_iff, Bool.or_eq_false_iff] at hordinary
  obtain ⟨⟨hgap, hquote⟩, hbackslash⟩ := hordinary
  have hrun : (fun d => !(isGap d || d == quote isDouble || d == '\\')) = isOrdinary isDouble := rfl
  rw [quotedScalar_go_succ, Cursor.peek_before, List.headD_cons, hquote, hbackslash, hgap, hrun,
    Cursor.takeWhile_cons hc hline]
  simp

theorem Closes.char (h : Closes isDouble rest body text) (hc : isOrdinary isDouble c)
    (hchar : isWrittenChar c) : Closes isDouble rest (c :: body) (c :: text) := by
  have hplain := isPlainAscii_of_isOrdinary hchar hc
  have hline := Cursor.isOnLine_of_isPlainAscii hplain
  refine ⟨List.forall_mem_cons.2 ⟨hchar, h.chars⟩, ?_⟩
  rintro (_ | fuel) acc i l k hfuel
  · exact absurd hfuel (Nat.not_lt_zero _)
  · rw [List.length_cons] at hfuel
    have hread : ∀ fuel', body.length < fuel' → quotedScalar.go isDouble (quote isDouble) fuel'
        ([c] :: acc) (.before (body ++ quote isDouble :: rest) (i + 1) l (k + 1)) =
          .ok (acc.reverse.flatten ++ c :: text,
            .past (c :: body ++ [quote isDouble]) rest i l k) := fun fuel' hlt => by
      rw [h.reads fuel' _ _ _ _ hlt, List.cons_append, Cursor.past_cons hline.1]
      simp
    rw [List.cons_append, quotedScalar_go_ordinary fuel acc hc hline]
    by_cases hhead : ∃ d ds, body = d :: ds ∧ isOrdinary isDouble d
    · obtain ⟨d, ds, rfl, hd⟩ := hhead
      have hlined := Cursor.isOnLine_of_isPlainAscii
        (isPlainAscii_of_isOrdinary (h.chars d (List.mem_cons_self ..)) hd)
      have hnext := hread (fuel + 1) (by omega)
      rw [List.cons_append, quotedScalar_go_ordinary fuel _ hd hlined] at hnext
      have hflat : ∀ run,
          ((c :: run) :: acc).reverse.flatten = (run :: [c] :: acc).reverse.flatten :=
        by simp
      rw [List.cons_append, Cursor.takeWhile_cons hd hlined, ← hnext]
      exact quotedScalar_go_acc _ _ _ _ (hflat _)
    · have hnone : ∀ d ∈ (body ++ quote isDouble :: rest).head?, isOrdinary isDouble d = false := by
        cases body with
        | nil => exact fun d hd => Option.some.inj hd ▸ by simp [isOrdinary]
        | cons b body =>
          exact fun d hd => Option.some.inj hd ▸
            Bool.eq_false_iff.2 fun hb => hhead ⟨b, body, rfl, hb⟩
      rw [Cursor.takeWhile_none hnone]
      exact hread fuel (by omega)

/-! ### Gaps between marks -/

/-- A text that begins with blanks and a word, or a word. -/
def LeadsToWord (cs : List Char) : Prop := StartsWord (cs.dropWhile isSpaceOrTab)

theorem isSpaceOrTab_eq_false (h : isGap c = false) : isSpaceOrTab c = false := by
  simp only [isGap, Bool.or_eq_false_iff] at h
  rw [isSpaceOrTab, h.1.1.1.1, h.1.1.1.2]
  rfl

theorem StartsWord.leadsToWord (h : StartsWord cs) : LeadsToWord cs := by
  cases cs with
  | nil => exact h
  | cons c cs =>
    rw [LeadsToWord, List.dropWhile_cons_of_neg (by simp [isSpaceOrTab_eq_false (h c rfl)])]
    exact h

theorem LeadsToWord.blank (h : LeadsToWord cs) : LeadsToWord (' ' :: cs) := by
  rwa [LeadsToWord, List.dropWhile_cons_of_pos (by decide)]

/-- Blanks in a quoted text, from the second one on. -/
theorem quotedGap_blank (h : LeadsToWord cs) (hne : cs.dropWhile isSpaceOrTab ≠ []) :
    quotedGap (.before (' ' :: cs) i l k) =
      .ok (' ' :: ((Cursor.before cs (i + 1) l (k + 1)).takeWhile isSpaceOrTab).1,
        ((Cursor.before cs (i + 1) l (k + 1)).takeWhile isSpaceOrTab).2) := by
  have hrest := Cursor.rest_takeWhile (p := isSpaceOrTab) (Cursor.before cs (i + 1) l (k + 1))
  rw [Cursor.rest_before] at hrest
  rw [quotedGap, Cursor.takeWhile_cons (by decide) ⟨by decide, by decide⟩]
  dsimp only
  rw [hrest, if_neg (by simpa using hne), Cursor.lineBreak?, Cursor.peek, hrest, h.isBreak_headD]
  rfl

theorem quotedScalar_go_gap {cs' : List Char} (fuel : Nat) (acc : List (List Char)) (hc : isGap c)
    (hgap : quotedGap (.before (c :: cs) i l k) = .ok (cs', next)) :
    quotedScalar.go isDouble (quote isDouble) (fuel + 1) acc (.before (c :: cs) i l k) =
      quotedScalar.go isDouble (quote isDouble) fuel (cs' :: acc) next := by
  have hquote : (c == quote isDouble) = false := beq_eq_false_iff_ne.2 fun heq =>
    absurd (heq ▸ hc) (by simp [isGap_quote])
  have hbackslash : (c == '\\') = false := beq_eq_false_iff_ne.2 fun heq =>
    absurd (heq ▸ hc) (by decide)
  rw [quotedScalar_go_succ, Cursor.peek_before, List.headD_cons, hquote, hbackslash, hc, hgap]
  simp

theorem LeadsToWord.append (h : LeadsToWord body) (hcs : StartsWord (c :: cs)) :
    LeadsToWord (body ++ c :: cs) ∧ (body ++ c :: cs).dropWhile isSpaceOrTab ≠ [] := by
  have hc := isSpaceOrTab_eq_false (hcs c rfl)
  induction body with
  | nil =>
    refine ⟨hcs.leadsToWord, ?_⟩
    rw [List.nil_append, List.dropWhile_cons_of_neg (by simp [hc])]
    exact List.cons_ne_nil _ _
  | cons b body ih =>
    rw [LeadsToWord] at h ⊢
    cases hb : isSpaceOrTab b with
    | true =>
      rw [List.dropWhile_cons_of_pos hb] at h
      rw [List.cons_append, List.dropWhile_cons_of_pos hb]
      exact ih h
    | false =>
      rw [List.dropWhile_cons_of_neg (by simp [hb])] at h
      rw [List.cons_append, List.dropWhile_cons_of_neg (by simp [hb])]
      exact ⟨h, List.cons_ne_nil _ _⟩

theorem Closes.blank (h : Closes isDouble rest body text) (hbody : LeadsToWord body) :
    Closes isDouble rest (' ' :: body) (' ' :: text) := by
  have hline : Cursor.IsOnLine ' ' := ⟨by decide, by decide⟩
  refine ⟨List.forall_mem_cons.2 ⟨by decide, h.chars⟩, ?_⟩
  rintro (_ | fuel) acc i l k hfuel
  · exact absurd hfuel (Nat.not_lt_zero _)
  · rw [List.length_cons] at hfuel
    have hread : ∀ fuel', body.length < fuel' → quotedScalar.go isDouble (quote isDouble) fuel'
        ([' '] :: acc) (.before (body ++ quote isDouble :: rest) (i + 1) l (k + 1)) =
          .ok (acc.reverse.flatten ++ ' ' :: text,
            .past (' ' :: body ++ [quote isDouble]) rest i l k) := fun fuel' hlt => by
      rw [h.reads fuel' _ _ _ _ hlt, List.cons_append, Cursor.past_cons hline.1]
      simp
    have hquote : StartsWord (quote isDouble :: rest) := fun c hc =>
      Option.some.inj hc ▸ isGap_quote isDouble
    have hgap : ∀ (acc : List (List Char)) (ds : List Char) (i k : Nat), LeadsToWord ds →
        quotedScalar.go isDouble (quote isDouble) (fuel + 1) acc
            (.before (' ' :: (ds ++ quote isDouble :: rest)) i l k) =
          let (run, next) := (Cursor.before (ds ++ quote isDouble :: rest) (i + 1) l
            (k + 1)).takeWhile isSpaceOrTab
          quotedScalar.go isDouble (quote isDouble) fuel ((' ' :: run) :: acc) next :=
      fun acc ds i k hds =>
        quotedScalar_go_gap fuel acc (by decide) (quotedGap_blank (hds.append hquote).1
          (hds.append hquote).2)
    rw [List.cons_append, hgap acc body i k hbody]
    by_cases hhead : ∃ ds, body = ' ' :: ds
    · obtain ⟨ds, rfl⟩ := hhead
      have hds : LeadsToWord ds := by
        rwa [LeadsToWord, List.dropWhile_cons_of_pos (by decide)] at hbody
      have hnext := hread (fuel + 1) (by omega)
      have hflat : ∀ run, ((' ' :: run) :: acc).reverse.flatten =
          (run :: [' '] :: acc).reverse.flatten := by simp
      rw [List.cons_append, hgap _ ds _ _ hds] at hnext
      rw [List.cons_append, Cursor.takeWhile_cons (by decide) hline, ← hnext]
      exact quotedScalar_go_acc _ _ _ _ (hflat _)
    · have hnone : ∀ d ∈ (body ++ quote isDouble :: rest).head?, isSpaceOrTab d = false := by
        cases body with
        | nil => exact fun d hd => isSpaceOrTab_eq_false (hquote d hd)
        | cons b body =>
          refine fun d hd => Option.some.inj hd ▸ Bool.eq_false_iff.2 fun hb => ?_
          rw [isSpaceOrTab, Bool.or_eq_true, beq_iff_eq, beq_iff_eq] at hb
          rcases hb with rfl | rfl
          · exact hhead ⟨body, rfl⟩
          · exact absurd (h.chars _ (List.mem_cons_self ..)) (by decide)
      rw [Cursor.takeWhile_none hnone]
      exact hread fuel (by omega)

theorem Closes.blanks (h : Closes isDouble rest body text) (hbody : LeadsToWord body) :
    ∀ n, Closes isDouble rest (List.replicate n ' ' ++ body) (List.replicate n ' ' ++ text) ∧
      LeadsToWord (List.replicate n ' ' ++ body)
  | 0 => ⟨h, hbody⟩
  | n + 1 => by
    obtain ⟨hn, hleads⟩ := h.blanks hbody n
    exact ⟨hn.blank hleads, hleads.blank⟩

/-- Line ends, and the blanks before the next word. -/
theorem quotedBreaks_lines (hcs : StartsWord cs) (hwidth : 0 < width) :
    ∀ (n fuel : Nat) {acc : List Char} {i l k : Nat}, n < fuel →
      quotedBreaks fuel acc
          (.before (List.replicate n '\n' ++ List.replicate width ' ' ++ cs) i l k) =
        .ok (acc.reverse ++ List.replicate n '\n',
          .past (List.replicate n '\n' ++ List.replicate width ' ') cs i l k)
  | _, 0, _, _, _, _, hfuel => absurd hfuel (Nat.not_lt_zero _)
  | 0, fuel + 1, acc, i, l, k, _ => by
    have hblank : ∀ c ∈ List.replicate width ' ', c = ' ' := fun c hc => List.eq_of_mem_replicate hc
    have hmark : (Cursor.before (List.replicate width ' ' ++ cs) i l k).isAtMark = false := by
      rw [Cursor.isAtMark, Cursor.rest_before, startsWithMark_blanks hwidth, Bool.false_and]
    have hskip : (Cursor.before (List.replicate width ' ' ++ cs) i l k).skipWhile isSpaceOrTab =
        .past (List.replicate width ' ') cs i l k := by
      rw [Cursor.skipWhile,
        Cursor.takeWhile_before (fun c hc => hblank c hc ▸ ⟨by decide, by decide⟩)
          (fun c hc => hblank c hc ▸ rfl) (fun c hc => isSpaceOrTab_eq_false (hcs c hc)),
        Cursor.past_line fun c hc => hblank c hc ▸ by decide]
    rw [List.replicate_zero, List.nil_append, List.append_nil, quotedBreaks, hmark,
      if_neg Bool.false_ne_true, hskip, Cursor.past]
    dsimp only
    rw [Cursor.lineBreak?_eq_none hcs.isBreak_headD]
  | n + 1, fuel + 1, acc, i, l, k, hfuel => by
    have hskip : ∀ cs, (Cursor.before ('\n' :: cs) i l k).skipWhile isSpaceOrTab =
        .before ('\n' :: cs) i l k := fun cs => by
      rw [Cursor.skipWhile, Cursor.takeWhile_none (by simp [isSpaceOrTab])]
    have hmark : ∀ cs, (Cursor.before ('\n' :: cs) i l k).isAtMark = false := fun _ => rfl
    rw [List.replicate_succ, List.cons_append, List.cons_append, quotedBreaks, hmark,
      if_neg Bool.false_ne_true, hskip]
    dsimp only
    rw [Cursor.lineBreak?_newline, Cursor.past_newline]
    dsimp only
    rw [quotedBreaks_lines hcs hwidth n fuel (Nat.lt_of_succ_lt_succ hfuel), List.reverse_cons,
      List.append_assoc]
    rfl

theorem quotedGap_lines (hcs : StartsWord cs) (hwidth : 0 < width) :
    quotedGap (.before ((Gap.lines n).written width ++ cs) i l k) =
      .ok ((Gap.lines n).text, .past ((Gap.lines n).written width) cs i l k) := by
  have hblanks : ∀ cs, (Cursor.before ('\n' :: cs) i l k).takeWhile isSpaceOrTab =
      ([], .before ('\n' :: cs) i l k) := fun cs => Cursor.takeWhile_none (by simp [isSpaceOrTab])
  have hfuel : n < (Cursor.before (List.replicate n '\n' ++ List.replicate width ' ' ++ cs)
      (i + 1) (l + 1) 0).left + 1 := by
    rw [Cursor.left_before, List.length_append, List.length_append, List.length_replicate]
    omega
  rw [Gap.written, List.replicate_succ, List.cons_append, List.cons_append, quotedGap, hblanks]
  dsimp only
  rw [Cursor.lineBreak?_newline, Cursor.past_newline]
  dsimp only
  rw [quotedBreaks_lines hcs hwidth n _ hfuel]
  rfl

theorem Closes.lines (h : Closes isDouble rest body text) (hbody : StartsWord body)
    (hwidth : 0 < width) (n : Nat) :
    Closes isDouble rest ((Gap.lines n).written width ++ body) ((Gap.lines n).text ++ text) := by
  have hquote : StartsWord (body ++ quote isDouble :: rest) := by
    cases body with
    | nil => exact fun c hc => Option.some.inj hc ▸ isGap_quote isDouble
    | cons b body => exact hbody
  refine ⟨List.forall_mem_append.2 ⟨?_, h.chars⟩, ?_⟩
  · intro c hc
    rcases List.mem_append.1 hc with hc | hc <;> rw [List.eq_of_mem_replicate hc] <;> decide
  · rintro (_ | fuel) acc i l k hfuel
    · exact absurd hfuel (Nat.not_lt_zero _)
    · have hgap := quotedGap_lines (n := n) (i := i) (l := l) (k := k) hquote hwidth
      obtain ⟨ds, hds⟩ : ∃ ds, (Gap.lines n).written width = '\n' :: ds := ⟨_, rfl⟩
      rw [List.length_append] at hfuel
      rw [List.append_assoc, List.append_assoc, Cursor.past_append]
      rw [hds] at hgap hfuel ⊢
      rw [List.length_cons] at hfuel
      rw [List.cons_append] at hgap ⊢
      rw [quotedScalar_go_gap fuel acc (by decide) hgap, Cursor.past, h.reads _ _ _ _ _ (by omega)]
      simp

/-! ### Characters that stand for others -/

theorem Closes.backslash (h : Closes false rest body text) :
    Closes false rest ('\\' :: body) ('\\' :: text) := by
  have hline : Cursor.IsOnLine '\\' := ⟨by decide, by decide⟩
  refine ⟨List.forall_mem_cons.2 ⟨by decide, h.chars⟩, ?_⟩
  rintro (_ | fuel) acc i l k hfuel
  · exact absurd hfuel (Nat.not_lt_zero _)
  · have hrun : ∀ cs p, p '\\' = false → (Cursor.before ('\\' :: cs) i l k).takeWhile p =
        ([], .before ('\\' :: cs) i l k) := fun cs p hp =>
      Cursor.takeWhile_none fun c hc => Option.some.inj hc ▸ hp
    rw [List.cons_append, quotedScalar_go_succ, hrun _ _ (by decide), List.cons_append,
      Cursor.past_cons hline.1]
    dsimp only
    rw [Cursor.peek_before, List.headD_cons, Cursor.advance_before hline]
    have hread := h.reads fuel (['\\'] :: acc) (i + 1) l (k + 1) (Nat.lt_of_succ_lt_succ hfuel)
    simpa [quote, isGap, isBreak] using hread

/-- Two apostrophes stand for one. -/
theorem Closes.apostrophe (h : Closes false rest body text) :
    Closes false rest ('\'' :: '\'' :: body) ('\'' :: text) := by
  have hline : Cursor.IsOnLine '\'' := ⟨by decide, by decide⟩
  refine ⟨List.forall_mem_cons.2 ⟨by decide, List.forall_mem_cons.2 ⟨by decide, h.chars⟩⟩, ?_⟩
  rintro (_ | fuel) acc i l k hfuel
  · exact absurd hfuel (Nat.not_lt_zero _)
  · have hadvance : ∀ cs, (Cursor.before ('\'' :: '\'' :: cs) i l k).advanceBy 2 =
        .before cs (i + 2) l (k + 2) := fun cs =>
      @Cursor.advanceBy_before cs l ['\'', '\''] i k (by simp [hline])
    have hread := h.reads fuel (['\''] :: acc) (i + 2) l (k + 2)
      (by rw [List.length_cons, List.length_cons] at hfuel; omega)
    rw [List.cons_append, List.cons_append, quotedScalar_go_succ, hadvance, List.cons_append,
      List.cons_append, Cursor.past_cons hline.1, Cursor.past_cons hline.1]
    simpa [quote] using hread

theorem quotedScalar_go_backslash (fuel : Nat) (acc : List (List Char)) :
    quotedScalar.go true (quote true) (fuel + 1) acc (.before ('\\' :: cs) i l k) =
      match escapeSequence (.before cs (i + 1) l (k + 1)) with
      | .ok (cs, c) => quotedScalar.go true (quote true) fuel (cs :: acc) c
      | .error f => .error f := by
  rw [quotedScalar_go_succ, Cursor.peek_before, List.headD_cons,
    Cursor.advance_before ⟨by decide, by decide⟩]
  rfl

theorem Closes.escape {e : List Char} (h : Closes true rest body text) (he : IsEscape c e) :
    Closes true rest (e ++ body) (c :: text) := by
  obtain ⟨f, rfl, hf, hread⟩ := exists_cons_of_isEscape he
  have hline : ∀ d ∈ '\\' :: f, isBreak d = false :=
    List.forall_mem_cons.2 ⟨by decide, fun d hd => isBreak_of_isPlainAscii (hf d hd)⟩
  refine ⟨List.forall_mem_append.2 ⟨List.forall_mem_cons.2 ⟨by decide, fun d hd =>
    isWrittenChar_of_isPlainAscii (hf d hd)⟩, h.chars⟩, ?_⟩
  rintro (_ | fuel) acc i l k hfuel
  · exact absurd hfuel (Nat.not_lt_zero _)
  · rw [List.length_append, List.length_cons] at hfuel
    rw [List.append_assoc, List.append_assoc, Cursor.past_append, Cursor.placeAfter_line hline,
      List.cons_append, quotedScalar_go_backslash, hread]
    dsimp only
    rw [h.reads _ _ _ _ _ (by omega), List.length_cons, Nat.add_assoc, Nat.add_assoc,
      Nat.add_comm 1]
    simp

/-- A line end after a backslash stands for nothing. -/
theorem Closes.fold (h : Closes true rest body text) (hbody : StartsWord body)
    (hwidth : 0 < width) :
    Closes true rest ('\\' :: '\n' :: (List.replicate width ' ' ++ body)) text := by
  have hquote : StartsWord (body ++ quote true :: rest) := by
    cases body with
    | nil => exact fun c hc => Option.some.inj hc ▸ isGap_quote true
    | cons b body => exact hbody
  refine ⟨?_, ?_⟩
  · refine List.forall_mem_cons.2 ⟨by decide, List.forall_mem_cons.2 ⟨by decide,
      List.forall_mem_append.2 ⟨fun c hc => ?_, h.chars⟩⟩⟩
    rw [List.eq_of_mem_replicate hc]
    decide
  · rintro (_ | fuel) acc i l k hfuel
    · exact absurd hfuel (Nat.not_lt_zero _)
    · have hbreaks := @quotedBreaks_lines _ _ hquote hwidth 0
        ((Cursor.before (List.replicate width ' ' ++ (body ++ quote true :: rest)) (i + 2) (l + 1)
          0).left + 1) [] (i + 2) (l + 1) 0 (by omega)
      rw [List.replicate_zero, List.nil_append] at hbreaks
      have hescape : escapeSequence (.before ('\n' :: (List.replicate width ' ' ++
          (body ++ quote true :: rest))) (i + 1) l (k + 1)) =
            .ok ([], .past (List.replicate width ' ') (body ++ quote true :: rest) (i + 2)
              (l + 1) 0) := by
        have hcode : escapedCode? (.before ('\n' :: (List.replicate width ' ' ++
          (body ++ quote true :: rest))) (i + 1) l (k + 1)) = none := rfl
        have hletter : escapedLetters.lookup '\n' = none := by decide
        rw [escapeSequence, hcode, Cursor.peek_before, List.headD_cons, hletter]
        dsimp only
        rw [Cursor.lineBreak?_newline]
        exact hbreaks
      simp only [List.length_cons, List.length_append] at hfuel
      simp only [List.cons_append, List.append_assoc]
      rw [quotedScalar_go_backslash, hescape, Cursor.past_cons (by decide), Cursor.past_newline,
        Cursor.past_append, Cursor.past]
      dsimp only
      rw [h.reads _ _ _ _ _ (by omega)]
      simp

/-! ### Whole texts -/

theorem StartsWord.doubled (h : StartsWord cs) : StartsWord (doubled cs) := by
  cases cs with
  | nil => exact h
  | cons c cs =>
    have hc := h c rfl
    rw [Yaml.doubled, List.flatMap_cons]
    split
    · exact fun d hd => Option.some.inj hd ▸ by decide
    · exact fun d hd => Option.some.inj hd ▸ hc

/-- A text that was written between apostrophes. -/
theorem Folded.closes (h : Folded width cs w) (hwidth : 0 < width)
    (hchars : ∀ c ∈ cs, isWrittenChar c) (hrest : rest.headD '\x00' ≠ '\'') :
    Closes false rest (doubled w) cs := by
  induction h with
  | nil => exact .nil fun _ => hrest
  | @char c cs w hc hw ih =>
    obtain ⟨hchar, hcs⟩ := List.forall_mem_cons.1 hchars
    have hclosed := ih hcs
    by_cases happ : c = '\''
    · subst happ
      exact hclosed.apostrophe
    · have hcons : doubled (c :: w) = c :: doubled w := by
        rw [doubled, List.flatMap_cons, if_neg happ]
        rfl
      rw [hcons]
      by_cases hback : c = '\\'
      · subst hback
        exact hclosed.backslash
      · exact hclosed.char (by simp [isOrdinary, hc, quote, happ, hback]) hchar
  | @gap cs w g hw hfolded ih =>
    have hclosed := ih (List.forall_mem_append.1 hchars).2
    rw [doubled_written]
    cases g with
    | blanks n => exact (hclosed.blanks hw.doubled.leadsToWord (n + 1)).1
    | lines n => exact hclosed.lines hw.doubled hwidth n

theorem isPlainAscii_of_escape? (h : escape? c = none) :
    isPlainAscii c ∧ c ≠ '"' ∧ c ≠ '\\' := by
  refine ⟨?_, ?_, ?_⟩
  · unfold escape? at h
    split at h
    · cases h
    · split at h
      · assumption
      · split at h
        · cases h
        · split at h <;> cases h
  · rintro rfl
    cases h
  · rintro rfl
    cases h

theorem Escaped.leadsToWord (h : Escaped width cs w) : LeadsToWord w := by
  have hbackslash : ∀ ds, LeadsToWord ('\\' :: ds) := fun ds c hc =>
    Option.some.inj hc ▸ by decide
  induction h with
  | nil => exact fun c hc => by cases hc
  | @char c cs w hc _ ih =>
    by_cases hblank : c = ' '
    · subst hblank
      exact ih.blank
    · have hgap := isGap_of_isPlainAscii (isPlainAscii_of_escape? hc).1 hblank
      have hstarts : StartsWord (c :: w) := fun d hd => Option.some.inj hd ▸ hgap
      exact hstarts.leadsToWord
  | escape he _ _ =>
    obtain ⟨f, rfl, -⟩ := exists_cons_of_isEscape he
    exact hbackslash _
  | fold => exact hbackslash _

theorem LeadsToWord.startsWord (h : LeadsToWord cs) (hchars : ∀ c ∈ cs, isWrittenChar c)
    (hblank : cs.head? ≠ some ' ') : StartsWord cs := by
  cases cs with
  | nil => exact h
  | cons c cs =>
    have hother : isSpaceOrTab c = false := by
      refine Bool.eq_false_iff.2 fun hc => ?_
      rw [isSpaceOrTab, Bool.or_eq_true, beq_iff_eq, beq_iff_eq] at hc
      rcases hc with rfl | rfl
      · exact hblank rfl
      · exact absurd (hchars _ (List.mem_cons_self ..)) (by decide)
    rwa [LeadsToWord, List.dropWhile_cons_of_neg (by simp [hother])] at h

/-- A text that was written between quotation marks. -/
theorem Escaped.closes (h : Escaped width cs w) (hwidth : 0 < width) : Closes true rest w cs := by
  induction h with
  | nil => exact .nil fun h => by cases h
  | @char c cs w hc hw ih =>
    obtain ⟨hplain, hquote, hback⟩ := isPlainAscii_of_escape? hc
    by_cases hblank : c = ' '
    · subst hblank
      exact ih.blank hw.leadsToWord
    · have hgap := isGap_of_isPlainAscii hplain hblank
      exact ih.char (by simp [isOrdinary, hgap, quote, hquote, hback])
        (isWrittenChar_of_isPlainAscii hplain)
  | escape he _ ih => exact ih.escape he
  | fold hhead hw ih =>
    exact ih.fold (hw.leadsToWord.startsWord ih.chars hhead) hwidth

/-- What is read between marks. -/
theorem Closes.quotedScalar (h : Closes isDouble rest body text) :
    quotedScalar isDouble (.before (quote isDouble :: (body ++ quote isDouble :: rest)) i l k) =
      .ok (text, .past (quote isDouble :: (body ++ [quote isDouble])) rest i l k) := by
  have hline := Cursor.isOnLine_of_isPlainAscii (isPlainAscii_quote isDouble)
  have hreads := h.reads ((quote isDouble :: (body ++ quote isDouble :: rest)).length + 1) []
    (i + 1) l (k + 1) (by simp; omega)
  rw [Cursor.past_cons hline.1, Yaml.quotedScalar, Cursor.left_before, Cursor.advance_before hline]
  exact hreads

end StackCompiler.Yaml
