import StackCompiler.Proofs.Yaml.Writing

/-!
# Reading plain texts

A plain text is read as it was written (`plainScalar_folded`). It ends at its colon, or at the end
of its line, and then the start of the next line is read with it.
-/

namespace StackCompiler.Yaml

variable {cs ds w rest text : List Char} {b c : Char} {i l k n width : Nat} {indent : Int}
  {gap? : Option (List Char)} {ended : Bool} {next : Cursor}

/-! ## Runs and gaps -/

/-- A folded text is a run of characters, and a gap and another folded text if it goes on. -/
theorem Folded.exists_run (h : Folded width cs w) : ∃ run, (∀ c ∈ run, isGap c = false) ∧
    (cs = run ∧ w = run ∨ ∃ g cs' w', cs = run ++ (Gap.text g ++ cs') ∧
      w = run ++ (g.written width ++ w') ∧ StartsWord w' ∧ Folded width cs' w') := by
  induction h with
  | nil => exact ⟨[], by simp, .inl ⟨rfl, rfl⟩⟩
  | @char c cs w hc _ ih =>
    obtain ⟨run, hrun, hrest⟩ := ih
    refine ⟨c :: run, List.forall_mem_cons.2 ⟨hc, hrun⟩, ?_⟩
    rcases hrest with ⟨rfl, rfl⟩ | ⟨g, cs', w', rfl, rfl, hrest⟩
    · exact .inl ⟨rfl, rfl⟩
    · exact .inr ⟨g, cs', w', rfl, rfl, hrest⟩
  | @gap cs w g hw h _ => exact ⟨[], by simp, .inr ⟨g, cs, w, rfl, rfl, hw, h⟩⟩

theorem Folded.head_eq (h : Folded width cs w) (hw : StartsWord w) : cs.head? = w.head? := by
  cases h with
  | nil => rfl
  | char => rfl
  | gap g =>
    obtain ⟨c, w', heq, hgap⟩ := g.exists_written width
    rw [heq] at hw
    exact absurd (hw c rfl) (by simp [hgap])

theorem Folded.exists_cons (h : Folded width (c :: cs) w) (hc : isGap c = false) :
    ∃ w', w = c :: w' ∧ Folded width cs w' := by
  generalize hcons : c :: cs = ds at h
  cases h with
  | nil => cases hcons
  | char _ h =>
    cases hcons
    exact ⟨_, rfl, h⟩
  | gap g =>
    obtain ⟨d, ds, heq, hd⟩ := g.exists_text
    rw [heq] at hcons
    cases hcons
    exact absurd hd (by simp [hc])

theorem StartsWord.headD_ne (h : StartsWord cs) (hc : isGap c) (hnull : c ≠ '\x00') :
    cs.headD '\x00' ≠ c := by
  cases cs with
  | nil => exact hnull.symm
  | cons d cs =>
    rintro rfl
    exact absurd hc (by simp [h _ rfl])

theorem StartsWord.isBreak_headD (h : StartsWord cs) : isBreak (cs.headD '\x00') = false := by
  cases cs with
  | nil => decide
  | cons d cs =>
    have hgap := h d rfl
    simp only [isGap, Bool.or_eq_false_iff] at hgap
    exact hgap.2

theorem StartsWord.append (h : StartsWord cs) (hne : cs ≠ []) : StartsWord (cs ++ ds) := by
  obtain ⟨c, cs, rfl⟩ := List.exists_cons_of_ne_nil hne
  exact h

/-! ## Plain scalars -/

theorem plainRun_word {run tail : List Char} : ∀ {b : Char}, (∀ c ∈ run, isGap c = false) →
    gapFollows tail → hasInnerIndicator b (run ++ tail) = false → plainRun false rest = [] →
      plainRun false (run ++ rest) = run := by
  induction run with
  | nil => exact fun _ _ _ h => h
  | cons c run ih =>
    intro b hrun htail hindicator hrest
    obtain ⟨hc, hrun'⟩ := List.forall_mem_cons.1 hrun
    rw [List.cons_append, hasInnerIndicator, Bool.or_eq_false_iff,
      Bool.or_eq_false_iff] at hindicator
    have hcolon : (c == ':' && gapFollows (run ++ rest)) = false := by
      cases run with
      | nil =>
        rw [List.nil_append, htail, Bool.and_true] at hindicator
        rw [hindicator.1.1, Bool.false_and]
      | cons d run =>
        rw [show gapFollows (d :: run ++ rest) = false from (List.forall_mem_cons.1 hrun').1,
          Bool.and_false]
    rw [List.cons_append, plainRun]
    simp [hc, hcolon, ih hrun' htail hindicator.2 hrest]

theorem hasInnerIndicator_blank : ∀ {b : Char} {xs : List Char},
    hasInnerIndicator b (xs ++ ' ' :: cs) = false → hasInnerIndicator ' ' cs = false
  | _, [], h => (Bool.or_eq_false_iff.1 h).2
  | _, _ :: _, h => hasInnerIndicator_blank (Bool.or_eq_false_iff.1 h).2

theorem plainRun_colon (h : gapFollows rest) : plainRun false (':' :: rest) = [] := by
  rw [plainRun, h]
  rfl

theorem plainRun_gap (h : isGap c) : plainRun false (c :: rest) = [] := by
  rw [plainRun, h]
  rfl

theorem plainBreaks_startsWord (h : StartsWord rest) : ∀ {n fuel i k : Nat}, n ≤ fuel →
    plainBreaks fuel [] (.before (List.replicate n ' ' ++ rest) i l k) =
      some ([], .before rest (i + n) l (k + n))
  | 0, 0, _, _, _ => rfl
  | 0, fuel + 1, i, k, _ => by
    rw [List.replicate_zero, List.nil_append, plainBreaks, Cursor.peek_before,
      beq_eq_false_iff_ne.2 (h.headD_ne rfl (by decide)), Cursor.lineBreak?_eq_none h.isBreak_headD]
    rfl
  | n + 1, fuel + 1, i, k, hle => by
    rw [List.replicate_succ, List.cons_append, plainBreaks, Cursor.peek_before, List.headD_cons,
      if_pos (by decide), Cursor.advance_before ⟨by decide, by decide⟩,
      plainBreaks_startsWord h (by omega)]
    congr 3 <;> omega

theorem startsWithMark_blanks (h : 0 < n) :
    startsWithMark (List.replicate n ' ' ++ rest) = false := by
  obtain ⟨n, rfl⟩ : ∃ m, n = m + 1 := ⟨n - 1, by omega⟩
  rfl

theorem plainGap_colon :
    plainGap (.before (':' :: rest) i l k) = (none, false, .before (':' :: rest) i l k) := by
  have hblanks : (Cursor.before (':' :: rest) i l k).takeWhile (· == ' ') =
      ([], .before (':' :: rest) i l k) := Cursor.takeWhile_none (by simp)
  rw [plainGap, hblanks]
  dsimp only
  rw [Cursor.lineBreak?_eq_none rfl]
  rfl

theorem plainGap_blanks (h : StartsWord rest) :
    plainGap (.before (List.replicate (n + 1) ' ' ++ rest) i l k) =
      (some (List.replicate (n + 1) ' '), false, .before rest (i + (n + 1)) l (k + (n + 1))) := by
  have hblanks := @Cursor.takeWhile_before rest (List.replicate (n + 1) ' ') i l k (· == ' ')
    (fun c hc => by rw [List.eq_of_mem_replicate hc]; exact ⟨by decide, by decide⟩)
    (fun c hc => by rw [List.eq_of_mem_replicate hc]; rfl)
    (fun c hc => beq_eq_false_iff_ne.2 fun heq => by
      have := h c hc
      rw [heq] at this
      cases this)
  rw [plainGap, hblanks]
  dsimp only
  rw [Cursor.lineBreak?_eq_none h.isBreak_headD, List.length_replicate]
  rfl

theorem plainGap_newline (h : StartsWord rest)
    (hmark : startsWithMark (List.replicate n ' ' ++ rest) = false) :
    plainGap (.before ('\n' :: (List.replicate n ' ' ++ rest)) i l k) =
      (some [' '], true, .before rest (i + 1 + n) (l + 1) n) := by
  have hblanks : (Cursor.before ('\n' :: (List.replicate n ' ' ++ rest)) i l k).takeWhile
      (· == ' ') = ([], .before ('\n' :: (List.replicate n ' ' ++ rest)) i l k) :=
    Cursor.takeWhile_none (by simp)
  have hatMark : (Cursor.before (List.replicate n ' ' ++ rest) (i + 1) (l + 1) 0).isAtMark =
      false := by
    rw [Cursor.isAtMark, Cursor.rest_before, hmark, Bool.false_and]
  rw [plainGap, hblanks]
  dsimp only
  rw [Cursor.lineBreak?_newline]
  dsimp only
  rw [hatMark, Cursor.left_before, plainBreaks_startsWord h (by simp), Nat.zero_add]
  rfl

/-- A gap of a plain text has no empty lines. -/
theorem Gap.exists_text_of_plain (g : Gap) (hg : ∀ c ∈ g.text, isPlainAscii c) :
    (∃ n, g = .blanks n) ∨ g = .lines 0 := by
  match g with
  | .blanks n => exact .inl ⟨n, rfl⟩
  | .lines 0 => exact .inr rfl
  | .lines (n + 1) => exact absurd (hg '\n' (List.mem_cons_self ..)) (by decide)

theorem plainGap_written {g : Gap} (hg : ∀ c ∈ g.text, isPlainAscii c) (h : StartsWord rest)
    (hwidth : 0 < width) : ∃ ended, plainGap (.before (g.written width ++ rest) i l k) =
      (some g.text, ended, .past (g.written width) rest i l k) ∧
        (k < (Cursor.past (g.written width) rest i l k).column ∨
          (Cursor.past (g.written width) rest i l k).column = width) := by
  have hblank : ∀ n, ∀ c ∈ List.replicate n ' ', isBreak c = false := fun n c hc => by
    rw [List.eq_of_mem_replicate hc]
    decide
  rcases g.exists_text_of_plain hg with ⟨n, rfl⟩ | rfl
  · refine ⟨false, ?_, .inl ?_⟩
    · rw [Gap.written, plainGap_blanks h, Cursor.past_line (hblank _), List.length_replicate]
      rfl
    · rw [Gap.written, Cursor.past_line (hblank _), List.length_replicate, Cursor.column_before]
      omega
  · have hpast : Cursor.past ((Gap.lines 0).written width) rest i l k =
        .before rest (i + 1 + width) (l + 1) width := by
      change Cursor.past ('\n' :: List.replicate width ' ') rest i l k = _
      rw [Cursor.past_newline, Cursor.past_line (hblank _), List.length_replicate, Nat.zero_add]
    refine ⟨true, ?_, .inr ?_⟩
    · rw [hpast]
      exact plainGap_newline h (startsWithMark_blanks hwidth)
    · rw [hpast, Cursor.column_before]

theorem plainScalar_go_succ (inFlow : Bool) (fuel : Nat) (acc : List (List Char)) (gap : List Char)
    (ended : Bool) (c : Cursor) : plainScalar.go inFlow indent (fuel + 1) acc gap ended c =
      let run := if c.peek == '#' then [] else plainRun inFlow c.rest
      if run.isEmpty then (acc, ended, c)
      else
        let acc := run :: gap :: acc
        let (gap?, ended, next) := plainGap (c.advanceBy run.length)
        match gap? with
        | none => (acc, ended, next)
        | some gap =>
          if next.peek == '#' || (!inFlow && (next.column : Int) ≤ indent) then (acc, ended, next)
          else plainScalar.go inFlow indent fuel acc gap ended next := (rfl)

theorem isOnLine_of_run {run : List Char} (hchars : ∀ c ∈ run, isPlainAscii c) :
    ∀ c ∈ run, Cursor.IsOnLine c := fun c hc => Cursor.isOnLine_of_isPlainAscii (hchars c hc)

/-- A run of a plain text, and the gap after it. -/
theorem plainScalar_go_run {run tail : List Char} (acc : List (List Char)) (gap : List Char)
    (before : Bool) (fuel : Nat) (hne : run ≠ []) (hchars : ∀ c ∈ run, isPlainAscii c)
    (hrun : ∀ c ∈ run, isGap c = false) (hcomment : run.head? ≠ some '#') (htail : gapFollows tail)
    (hindicator : hasInnerIndicator b (run ++ tail) = false) (hrest : plainRun false rest = []) :
    plainScalar.go false indent (fuel + 1) acc gap before (.before (run ++ rest) i l k) =
      match plainGap (.past run rest i l k) with
      | (none, ended, next) => (run :: gap :: acc, ended, next)
      | (some gap', ended, next) =>
        if next.peek == '#' || (next.column : Int) ≤ indent then (run :: gap :: acc, ended, next)
        else plainScalar.go false indent fuel (run :: gap :: acc) gap' ended next := by
  have hpeek : ((run ++ rest).headD '\x00' == '#') = false := by
    obtain ⟨c, run, rfl⟩ := List.exists_cons_of_ne_nil hne
    exact beq_eq_false_iff_ne.2 fun heq => hcomment (congrArg some heq)
  have hpast : (Cursor.before (run ++ rest) i l k).advanceBy run.length = .past run rest i l k := by
    rw [Cursor.advanceBy_before (isOnLine_of_run hchars),
      Cursor.past_line fun c hc => isBreak_of_isPlainAscii (hchars c hc)]
  rw [plainScalar_go_succ, Cursor.peek_before, hpeek, Cursor.rest_before,
    if_neg Bool.false_ne_true, plainRun_word hrun htail hindicator hrest]
  dsimp only
  rw [if_neg (by simpa using hne), hpast]
  rcases plainGap (.past run rest i l k) with ⟨_ | _, _, _⟩ <;> rfl

/-- The rest of a plain text from the start of a word on, and the character before it. -/
structure PlainRest (b : Char) (cs : List Char) : Prop where
  ne_nil : cs ≠ []
  startsWord : StartsWord cs
  comment : cs.head? ≠ some '#'
  last : cs.getLast? ≠ some ' '
  chars : ∀ c ∈ cs, isPlainAscii c
  indicators : hasInnerIndicator b cs = false

/-- After a run and a gap comes the rest of a text again. -/
theorem PlainRest.drop {run : List Char} {g : Gap} (h : PlainRest b (run ++ (g.text ++ cs)))
    (hcs : StartsWord cs) : run ≠ [] ∧ PlainRest ' ' cs := by
  obtain ⟨-, htail⟩ := List.forall_mem_append.1 h.chars
  obtain ⟨hg, hchars⟩ := List.forall_mem_append.1 htail
  obtain ⟨t, ht⟩ : ∃ t, g.text = t ++ [' '] := by
    rcases g.exists_text_of_plain hg with ⟨n, rfl⟩ | rfl
    · exact ⟨List.replicate n ' ', List.replicate_succ'⟩
    · exact ⟨[], rfl⟩
  have hindicators : hasInnerIndicator ' ' cs = false := by
    refine @hasInnerIndicator_blank cs b (run ++ t) ?_
    simpa [ht] using h.indicators
  refine ⟨?_, ?_, hcs, fun hhead => ?_, fun hlast => ?_, hchars, hindicators⟩
  · rintro rfl
    obtain ⟨c, t, heq, hc⟩ := g.exists_text
    have hstarts := h.startsWord
    rw [List.nil_append, heq] at hstarts
    exact absurd (hstarts c rfl) (by simp [hc])
  · rintro rfl
    refine h.last ?_
    rw [List.append_nil, ht, ← List.append_assoc, List.getLast?_concat]
  · obtain ⟨cs, rfl⟩ := List.head?_eq_some_iff.1 hhead
    simp [hasInnerIndicator, isGap] at hindicators
  · refine h.last ?_
    rw [← List.append_assoc, List.getLast?_append, hlast]
    rfl

theorem plainScalar_go_folded (hwidth : 0 < width) (hindent : indent < width)
    (hrest : plainRun false rest = []) (hend : gap? = none ∨ (next.column : Int) ≤ indent) :
    ∀ (fuel : Nat) (acc : List (List Char)) (gap : List Char) (before : Bool) {cs w : List Char}
      {b : Char} {i l k : Nat}, w.length < fuel → Folded width cs w → PlainRest b cs →
      indent ≤ k → plainGap (.past w rest i l k) = (gap?, ended, next) →
      ∃ acc', plainScalar.go false indent fuel acc gap before (.before (w ++ rest) i l k) =
        (acc', ended, next) ∧ acc'.reverse.flatten = acc.reverse.flatten ++ (gap ++ cs) := by
  intro fuel
  induction fuel with
  | zero => exact fun _ _ _ _ _ _ _ _ _ hfuel => absurd hfuel (Nat.not_lt_zero _)
  | succ fuel ih =>
    intro acc gap before cs w b i l k hfuel hw hcs hcolumn hgap
    obtain ⟨run, hrun, ⟨rfl, hrunw⟩ | ⟨g, cs', w', rfl, rfl, hw', hfolded⟩⟩ := hw.exists_run
    · subst hrunw
      refine ⟨w :: gap :: acc, ?_, by simp⟩
      rw [@plainScalar_go_run rest b i l k indent w [] acc gap before fuel hcs.ne_nil hcs.chars
        hrun hcs.comment rfl ((List.append_nil w).symm ▸ hcs.indicators) hrest, hgap]
      cases gap? with
      | none => rfl
      | some gap' =>
        have hle : (next.column : Int) ≤ indent := hend.resolve_left (Option.some_ne_none _)
        simp [hle]
    · obtain ⟨hrunChars, htail⟩ := List.forall_mem_append.1 hcs.chars
      obtain ⟨hg, -⟩ := List.forall_mem_append.1 htail
      have hcs' : StartsWord cs' := fun c hc => hw' c (hfolded.head_eq hw' ▸ hc)
      obtain ⟨hrunNe, hnext⟩ := hcs.drop hcs'
      have hw'Ne : w' ≠ [] := by
        rintro rfl
        exact hnext.ne_nil (List.head?_eq_none_iff.1 (hfolded.head_eq hw'))
      have htailGap : gapFollows (g.text ++ cs') := by
        obtain ⟨c, t, heq, hc⟩ := g.exists_text
        rw [heq]
        exact hc
      have hrunEnd : plainRun false (g.written width ++ (w' ++ rest)) = [] := by
        obtain ⟨c, t, heq, hc⟩ := g.exists_written width
        rw [heq]
        exact plainRun_gap hc
      have hcomment : run.head? ≠ some '#' := by
        obtain ⟨c, run, rfl⟩ := List.exists_cons_of_ne_nil hrunNe
        exact hcs.comment
      have hword : StartsWord (w' ++ rest) := hw'.append hw'Ne
      obtain ⟨ended', hread, hplace⟩ := plainGap_written (l := l) (i := i + run.length)
        (k := k + run.length) hg hword hwidth
      have hpast : Cursor.past run (g.written width ++ (w' ++ rest)) i l k =
          .before (g.written width ++ (w' ++ rest)) (i + run.length) l (k + run.length) :=
        Cursor.past_line fun c hc => isBreak_of_isPlainAscii (hrunChars c hc)
      have hpositive := List.length_pos_iff.2 hrunNe
      have hafter : indent < (Cursor.past (g.written width) (w' ++ rest) (i + run.length) l
          (k + run.length)).column := by
        omega
      have hnotComment : (w' ++ rest).headD '\x00' ≠ '#' := by
        obtain ⟨c, t, rfl⟩ := List.exists_cons_of_ne_nil hw'Ne
        exact fun heq => hnext.comment ((hfolded.head_eq hw').trans (congrArg some heq))
      rw [List.append_assoc, List.append_assoc, plainScalar_go_run acc gap before fuel hrunNe
        hrunChars hrun hcomment htailGap hcs.indicators hrunEnd, hpast, hread]
      dsimp only
      rw [if_neg ?_]
      · rw [Cursor.past_append, Cursor.placeAfter_line fun c hc =>
          isBreak_of_isPlainAscii (hrunChars c hc), Cursor.past_append] at hgap
        rw [List.length_append, List.length_append] at hfuel
        obtain ⟨acc', hgo, hflat⟩ := ih (run :: gap :: acc) g.text ended' (by omega)
          hfolded hnext (Int.le_of_lt hafter) hgap
        exact ⟨acc', hgo, by rw [hflat]; simp⟩
      · rw [Cursor.past, Cursor.peek_before, beq_eq_false_iff_ne.2 hnotComment, Bool.false_or]
        exact fun hle => absurd hafter (Int.not_lt.2 (of_decide_eq_true hle))

/-- What the first character of a plain text is not. -/
theorem IsPlainText.cons (h : IsPlainText (c :: cs)) : isGap c = false ∧ isLeadIndicator c = false ∧
    ((c == '?' || c == ':' || c == '-') && gapFollows cs) = false ∧
      hasInnerIndicator c cs = false := by
  have hindicators := h.indicators
  rw [hasIndicators, Bool.or_eq_false_iff, Bool.or_eq_false_iff, Bool.or_eq_false_iff]
    at hindicators
  exact ⟨isGap_of_isPlainAscii (h.chars c (List.mem_cons_self ..)) fun heq =>
    h.head (congrArg some heq), hindicators.2.1.1, hindicators.2.1.2, hindicators.2.2⟩

theorem IsPlainText.plainRest (h : IsPlainText cs) : PlainRest 'a' cs := by
  obtain ⟨c, cs, rfl⟩ := List.exists_cons_of_ne_nil h.ne_nil
  obtain ⟨hgap, hlead, hmarks, hinner⟩ := h.cons
  refine ⟨h.ne_nil, fun d hd => Option.some.inj hd ▸ hgap, fun heq => ?_, h.last, h.chars, ?_⟩
  · cases Option.some.inj heq
    exact absurd hlead (by decide)
  · have hcolon : (c == ':' && gapFollows cs) = false := by
      cases hc : c == ':' with
      | false => rfl
      | true => simpa [hc] using hmarks
    rw [hasInnerIndicator, hcolon, hinner]
    simp [isGap, isBreak]

/-- A plain text, and then what ends it. -/
theorem plainScalar_folded (h : IsPlainText cs) (hw : Folded width cs w) (hwidth : 0 < width)
    (hindent : indent < width) (hcolumn : indent ≤ k) (hrest : plainRun false rest = [])
    (hgap : plainGap (.past w rest i l k) = (gap?, ended, next))
    (hend : gap? = none ∨ (next.column : Int) ≤ indent) :
    plainScalar false indent (.before (w ++ rest) i l k) = (cs, ended, next) := by
  have hfuel : w.length < (w ++ rest).length + 1 := by
    rw [List.length_append]
    omega
  obtain ⟨acc, hgo, hflat⟩ := plainScalar_go_folded hwidth hindent hrest hend _ [] [] false hfuel hw
    h.plainRest hcolumn hgap
  rw [plainScalar, Cursor.left_before, hgo]
  exact congrArg (·, ended, next) hflat

end StackCompiler.Yaml
