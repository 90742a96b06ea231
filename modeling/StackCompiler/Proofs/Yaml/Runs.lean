import StackCompiler.Proofs.Yaml.Lexing

/-!
# Runs over written lines

`Lexer.Runs ts v k rest all` says that a lexer which has come to the rest of a text, at a column and
after some tokens, gives all the tokens of the text in the end. What stands before the rest is added
in front of it piece by piece: a key (`Lexer.runs_key`), a value (`Lexer.RunsOn.text`) and the end
of a collection (`Lexer.Runs.close`).
-/

namespace StackCompiler.Yaml

variable {cs w t rest : List Char} {c : Char} {i line k n width : Nat} {style : Style}
  {key value : String}

/-- A key that ends before it is given up. -/
def KeyFits (key : String) : Prop :=
  isSimpleKey key.toList → (keyForm key.toList).length ≤ Lexer.maxKeyLength

theorem Written.startsToken (h : Written width cs style w) (rest : List Char) :
    StartsToken (w ++ rest) := by
  cases h with
  | plain hplain hfolded =>
    obtain ⟨c, cs, rfl⟩ := List.exists_cons_of_ne_nil hplain.ne_nil
    obtain ⟨hgap, hlead, -, -⟩ := hplain.cons
    obtain ⟨w', rfl, -⟩ := hfolded.exists_cons hgap
    refine startsToken_cons (hplain.chars c (List.mem_cons_self ..)) ?_ ?_
    · exact fun heq => hplain.head (congrArg some heq)
    · rintro rfl
      exact absurd hlead (by decide)
  | quoted => exact startsToken_cons (by decide) (by decide) (by decide)
  | escaped => exact startsToken_cons (by decide) (by decide) (by decide)

theorem Written.ne_nil (h : Written width cs style w) : w ≠ [] := by
  cases h with
  | plain hplain hfolded =>
    obtain ⟨c, cs, rfl⟩ := List.exists_cons_of_ne_nil hplain.ne_nil
    obtain ⟨w', rfl, -⟩ := hfolded.exists_cons hplain.cons.1
    exact List.cons_ne_nil _ _
  | quoted => exact List.cons_ne_nil _ _
  | escaped => exact List.cons_ne_nil _ _

/-- A key is written on one line as any text is. -/
theorem written_keyForm (hwidth : width < lineWidth) (h : isSimpleKey cs) :
    Written width cs (styleOf true cs) (keyForm cs) := by
  obtain ⟨w, hw, -, hform⟩ := exists_written_putText hwidth true cs {}
  exact hform rfl (isBreak_of_isSimpleKey h) ▸ hw

theorem isPlainAscii_escapedForm (c : Char) : ∀ d ∈ escapedForm c, isPlainAscii d := by
  cases hc : escape? c with
  | some e =>
    obtain ⟨f, rfl, hf, -⟩ := exists_cons_of_isEscape (.inl hc)
    rw [escapedForm, hc, Option.getD_some]
    exact List.forall_mem_cons.2 ⟨by decide, hf⟩
  | none =>
    rw [escapedForm, hc, Option.getD_none]
    exact List.forall_mem_singleton.2 (isPlainAscii_of_escape? hc).1

theorem isPlainAscii_keyForm (h : isSimpleKey cs) : ∀ c ∈ keyForm cs, isPlainAscii c := by
  have hline := isBreak_of_isSimpleKey h
  unfold keyForm
  cases hstyle : styleOf true cs with
  | plain => exact (isPlainText_of_styleOf hstyle).chars
  | quoted =>
    refine List.forall_mem_cons.2 ⟨by decide, List.forall_mem_append.2 ⟨fun d hd => ?_, ?_⟩⟩
    · obtain ⟨c, hc, hd⟩ := List.mem_flatMap.1 hd
      have hchar : isPlainAscii c := by
        refine isPlainAscii_of_isWrittenChar ((quotes_of_styleOf hstyle).1 c hc) ?_
        rintro rfl
        exact absurd (hline _ hc) (by decide)
      split at hd
      · rename_i heq
        subst heq
        rcases List.mem_pair.1 hd with rfl | rfl <;> exact hchar
      · exact List.mem_singleton.1 hd ▸ hchar
    · exact List.forall_mem_singleton.2 (by decide)
  | escaped =>
    refine List.forall_mem_cons.2 ⟨by decide, List.forall_mem_append.2 ⟨fun d hd => ?_, ?_⟩⟩
    · obtain ⟨c, -, hd⟩ := List.mem_flatMap.1 hd
      exact isPlainAscii_escapedForm c d hd
    · exact List.forall_mem_singleton.2 (by decide)

theorem length_escapedForm_le (h : isPlainAscii c) : (escapedForm c).length ≤ 2 := by
  rw [escapedForm, escape?]
  cases escapeLetters.lookup c with
  | some letter => exact Nat.le_refl 2
  | none =>
    simp only [if_pos h]
    exact Nat.le_succ 1

theorem length_flatMap_le {f : Char → List Char} (hf : ∀ c ∈ cs, (f c).length ≤ n) :
    (cs.flatMap f).length ≤ n * cs.length := by
  induction cs with
  | nil => exact Nat.zero_le _
  | cons c cs ih =>
    obtain ⟨hc, hcs⟩ := List.forall_mem_cons.1 hf
    rw [List.flatMap_cons, List.length_append, List.length_cons, Nat.mul_succ, Nat.add_comm]
    exact Nat.add_le_add (ih hcs) hc

/-- A key of printable characters is never given up. -/
theorem keyFits_of_plainAscii (h : ∀ c ∈ key.toList, isPlainAscii c) : KeyFits key := by
  intro hsimple
  have hlength : key.toList.length < simpleKeyLength := by
    simp only [isSimpleKey, Bool.and_eq_true, decide_eq_true_eq] at hsimple
    exact hsimple.2
  have hdoubled : (doubled key.toList).length ≤ 2 * key.toList.length :=
    length_flatMap_le fun c _ => by
      split
      · exact Nat.le_refl 2
      · exact Nat.le_succ 1
  have hescaped : (key.toList.flatMap escapedForm).length ≤ 2 * key.toList.length :=
    length_flatMap_le fun c hc => length_escapedForm_le (h c hc)
  have hform : (keyForm key.toList).length ≤ 2 * key.toList.length + 2 := by
    unfold keyForm
    split
    · omega
    · simpa using hdoubled
    · simpa using hescaped
  have hbound : 2 * simpleKeyLength + 2 ≤ Lexer.maxKeyLength := by decide
  omega

theorem startsWithMark_iff : startsWithMark cs ↔
    ∃ c t, (c = '-' ∨ c = '.') ∧ cs = c :: c :: c :: t := by
  constructor
  · intro h
    unfold startsWithMark at h
    split at h
    · exact ⟨'-', _, .inl rfl, rfl⟩
    · exact ⟨'.', _, .inr rfl, rfl⟩
    · cases h
  · rintro ⟨c, t, rfl | rfl, rfl⟩ <;> rfl

/-- No mark is made up by a colon after a text. -/
theorem startsWithMark_colon (h : startsWithMark cs = false) :
    startsWithMark (cs ++ ':' :: rest) = false := by
  refine Bool.eq_false_iff.2 fun hmark => ?_
  obtain ⟨c, t, hc, heq⟩ := startsWithMark_iff.1 hmark
  have hcolon : ':' ≠ c := by
    rintro rfl
    rcases hc with hc | hc <;> exact absurd hc (by decide)
  match cs with
  | [] => exact hcolon (List.cons.inj heq).1
  | [_] => exact hcolon (List.cons.inj (List.cons.inj heq).2).1
  | [_, _] => exact hcolon (List.cons.inj (List.cons.inj (List.cons.inj heq).2).2).1
  | _ :: _ :: _ :: cs =>
    cases heq
    exact absurd (startsWithMark_iff.2 ⟨c, cs, hc, rfl⟩) (by simp [h])

theorem startsWithMark_keyForm (cs : List Char) : startsWithMark (keyForm cs) = false := by
  unfold keyForm
  cases hstyle : styleOf true cs with
  | plain => exact (Bool.or_eq_false_iff.1 (isPlainText_of_styleOf hstyle).indicators).1
  | quoted => rfl
  | escaped => rfl

namespace Lexer

/-- The scalar of a key. -/
def keyToken (key : String) : Token :=
  textToken (styleOf (isSimpleKey key.toList) key.toList) key.toList

/-- The scalar of a value. -/
def valueToken (value : String) : Token := textToken (styleOf false value.toList) value.toList

variable {ts all : List Token} {v : Level} {mayStartKey : Bool}

/-- From a token at the start of a line on. -/
def Runs (ts : List Token) (v : Level) (k : Nat) (rest : List Char) (all : List Token) : Prop :=
  ∀ (fuel i line : Nat) (l : Lexer),
    l.approach = .ok ((after ts v true (.before rest i line k)).unwind k) → rest.length < fuel →
      run fuel l = all

/-- From the end of a key on. -/
def RunsOn (mayStartKey : Bool) (ts : List Token) (v : Level) (rest : List Char)
    (all : List Token) : Prop :=
  ∀ fuel i line k : Nat, v.indent < k → rest.length < fuel →
    run fuel (after ts v mayStartKey (.before rest i line k)) = all

/-! ## Coming to a token -/

theorem approach_of_skipGap {l : Lexer} {c : Cursor} {pending : List (Nat × PendingKey)}
    (hskip : l.skipGap = after ts v mayStartKey c pending)
    (hpending : pending = [] ∨
      ∃ p, pending = [(0, p)] ∧ p.line ≠ c.line ∧ p.isRequired = false) :
    l.approach = .ok ((after ts v mayStartKey c).unwind c.column) := by
  have hdrop : l.skipGap.dropStale = .ok (after ts v mayStartKey c) := by
    rw [hskip]
    rcases hpending with rfl | ⟨p, rfl, hline, hoptional⟩
    · exact dropStale_nil rfl
    · have hstale : (after ts v mayStartKey c [(0, p)]).isStale p :=
        Bool.or_eq_true_iff.2 (.inl (bne_iff_ne.2 hline))
      exact dropStale_stale rfl hstale hoptional
  rw [approach, hdrop]
  rfl

theorem approach_blank (h : StartsToken rest) (hle : v.indent ≤ (k + 1 : Nat)) :
    (after ts v mayStartKey (.before (' ' :: rest) i line k)).approach =
      .ok (after ts v mayStartKey (.before rest (i + 1) line (k + 1))) := by
  have hskip : (after ts v mayStartKey (.before (' ' :: rest) i line k)).skipGap =
      after ts v mayStartKey (.before rest (i + 1) line (k + 1)) := skipGap_blanks (n := 1) h rfl
  rw [approach_of_skipGap hskip (.inl rfl), unwind_of_le]
  exact hle

theorem approach_newline (h : StartsToken rest) :
    (after ts v mayStartKey (.before ('\n' :: (List.replicate n ' ' ++ rest)) i line k)).approach =
      .ok ((after ts v true (.before rest (i + 1 + n) (line + 1) n)).unwind n) := by
  have hskip : (after ts v mayStartKey
      (.before ('\n' :: (List.replicate n ' ' ++ rest)) i line k)).skipGap =
        after ts v true (.before rest (i + 1 + n) (line + 1) n) := by
    rw [skipGap_newline h rfl, inFlow_eq_false rfl, Bool.not_false, Bool.or_true]
    rfl
  exact approach_of_skipGap hskip (.inl rfl)

/-! ## Texts -/

theorem emit_noted (t : Token) (stop : Cursor) (ends : Bool) (c : Cursor) :
    { (after ts v mayStartKey c).noted.emit t with cursor := stop, mayStartKey := ends } =
      after (ts ++ [t]) v ends stop
        (if mayStartKey then [(0, (after ts v mayStartKey c).keyHere)] else []) := by
  unfold noted
  cases mayStartKey <;> simp [after, emit]

/-- A text and the line end after it. -/
theorem step_text_line (hw : Written width cs style w) (hwidth : 0 < width)
    (hindent : v.indent < width) (hcolumn : v.indent < k) (hn : n ≤ v.indent)
    (hrest : StartsToken rest) (hmark : startsWithMark (List.replicate n ' ' ++ rest) = false) :
    ∃ l i' line', step (after ts v mayStartKey
        (.before (w ++ '\n' :: (List.replicate n ' ' ++ rest)) i line k)) = .ok l ∧
      l.approach = .ok ((after (ts ++ [textToken style cs]) v true
        (.before rest i' line' n)).unwind n) := by
  have hstart : k ≠ 0 := by omega
  obtain ⟨stop, ends, hstep, hstop⟩ := step_text (l := after ts v mayStartKey
    (.before (w ++ '\n' :: (List.replicate n ' ' ++ rest)) i line k)) hw hwidth rfl rfl rfl hindent
      (Int.le_of_lt hcolumn) (fun hk => absurd hk hstart) (plainRun_gap (by decide)) (by simp)
      (plainGap_newline hrest.startsWord hmark) (.inr hn)
  rw [emit_noted] at hstep
  refine ⟨_, i + w.length + 1 + n, (Cursor.placeAfter w line k).1 + 1, hstep, ?_⟩
  have hskip : ∀ pending, (after (ts ++ [textToken style cs]) v ends stop pending).skipGap =
      after (ts ++ [textToken style cs]) v true
        (.before rest (i + w.length + 1 + n) ((Cursor.placeAfter w line k).1 + 1) n) pending := by
    intro pending
    rcases hstop with ⟨rfl, rfl⟩ | ⟨rfl, rfl⟩
    · rw [skipGap_newline hrest rfl, inFlow_eq_false rfl]
      rfl
    · exact skipGap_blanks (n := 0) hrest rfl
  refine approach_of_skipGap (hskip _) ?_
  cases mayStartKey with
  | false => exact .inl rfl
  | true =>
    refine .inr ⟨_, rfl, ?_, ?_⟩
    · exact Nat.ne_of_lt (Nat.lt_succ_of_le Cursor.le_placeAfter)
    · exact beq_eq_false_iff_ne.2 (Int.ne_of_lt hcolumn)

/-! ## Keys -/

theorem Level.indent_opened (h : v.indent ≤ width) : (v.opened width).indent = width := by
  unfold opened
  split
  · rfl
  · omega

/-- The scalar of a simple key, which is pending then. -/
theorem step_simpleKey (hsimple : isSimpleKey key.toList) (hwidth : width + indentStep < lineWidth)
    (hle : v.indent ≤ width) (hrest : gapFollows rest) :
    step (after ts v true (.before (keyForm key.toList ++ ':' :: rest) i line width)) =
      .ok (after (ts ++ [keyToken key]) v false
        (.before (':' :: rest) (i + (keyForm key.toList).length) line
          (width + (keyForm key.toList).length))
        [(0, ⟨ts.length, v.indent == width, i, line, width⟩)]) := by
  have hw := written_keyForm hwidth hsimple
  have hindent : v.indent < (width + indentStep : Nat) := by
    unfold indentStep
    omega
  have hpast : Cursor.past (keyForm key.toList) (':' :: rest) i line width =
      .before (':' :: rest) (i + (keyForm key.toList).length) line
        (width + (keyForm key.toList).length) :=
    Cursor.past_line fun c hc => isBreak_of_isPlainAscii (isPlainAscii_keyForm hsimple c hc)
  obtain ⟨stop, ends, hstep, hstop⟩ := step_text (l := after ts v true
    (.before (keyForm key.toList ++ ':' :: rest) i line width)) hw (Nat.succ_pos _) rfl rfl rfl
      hindent hle (fun _ => startsWithMark_colon (startsWithMark_keyForm _))
      (plainRun_colon hrest) (by simp) plainGap_colon (.inl rfl)
  obtain ⟨rfl, rfl⟩ : stop = Cursor.past (keyForm key.toList) (':' :: rest) i line width ∧
      ends = false := hstop.elim id id
  rw [emit_noted, hpast] at hstep
  rw [hstep, keyToken, hsimple]
  rfl

/-- The colon of a pending key, unless it is too far off. -/
theorem approach_pending {p : PendingKey} (hline : p.line = line)
    (hnear : i - p.index ≤ maxKeyLength) (hle : v.indent ≤ k) :
    (after ts v mayStartKey (.before (':' :: rest) i line k) [(0, p)]).approach =
      .ok (after ts v mayStartKey (.before (':' :: rest) i line k) [(0, p)]) := by
  have hskip : (after ts v mayStartKey (.before (':' :: rest) i line k) [(0, p)]).skipGap =
      after ts v mayStartKey (.before (':' :: rest) i line k) [(0, p)] :=
    skipGap_blanks (n := 0) (startsToken_cons (by decide) (by decide) (by decide)) rfl
  have hfresh : (after ts v mayStartKey (.before (':' :: rest) i line k) [(0, p)]).isStale p =
      false := by
    rw [isStale, Bool.or_eq_false_iff]
    exact ⟨bne_eq_false_iff_eq.2 hline, decide_eq_false (Nat.not_lt.2 hnear)⟩
  rw [approach, hskip, dropStale_fresh rfl hfresh]
  exact congrArg Except.ok (unwind_of_le hle)

/-- A key that can be followed by its colon. -/
theorem runs_simpleKey (hsimple : isSimpleKey key.toList)
    (hfits : (keyForm key.toList).length ≤ maxKeyLength) (hwidth : width + indentStep < lineWidth)
    (hle : v.indent ≤ width) (hrest : gapFollows rest)
    (h : RunsOn false (ts ++ (v.opening width ++ [.key, keyToken key, .value])) (v.opened width)
      rest all) : Runs ts v width (keyForm key.toList ++ ':' :: rest) all := by
  intro fuel i line l happroach hfuel
  rw [List.length_append, List.length_cons] at hfuel
  have hpos := List.length_pos_iff.2 (written_keyForm hwidth hsimple).ne_nil
  obtain ⟨fuel, rfl⟩ : ∃ fuel', fuel = fuel' + 2 := ⟨fuel - 2, by omega⟩
  have hcolumn : v.indent ≤ (width + (keyForm key.toList).length : Nat) := by omega
  have hstep := @step_simpleKey rest i line width key ts v hsimple hwidth hle hrest
  rw [unwind_of_le (l := after ts v true _) hle] at happroach
  have hcolon := @approach_pending rest (i + (keyForm key.toList).length) line
    (width + (keyForm key.toList).length) (ts ++ [keyToken key]) v false
    ⟨ts.length, v.indent == width, i, line, width⟩ rfl (by simpa using hfits) hcolumn
  rw [run_of_step happroach (by simp [after]) hstep,
    run_of_step hcolon (List.cons_ne_nil _ _) (step_colon rfl rfl hrest)]
  refine h fuel _ _ _ ?_ (by omega)
  rw [Level.indent_opened hle]
  omega

/-- A key that stands after a question mark, on lines of its own. -/
theorem runs_complexKey {k : List Char} (hsimple : isSimpleKey key.toList = false)
    (hk : Written (width + indentStep) key.toList (styleOf false key.toList) k)
    (hle : v.indent ≤ width) (hpos : 0 < width) (hrest : gapFollows rest)
    (h : RunsOn true (ts ++ (v.opening width ++ [.key, keyToken key, .value])) (v.opened width)
      rest all) :
    Runs ts v width ('?' :: ' ' :: (k ++ '\n' :: (List.replicate width ' ' ++ ':' :: rest)))
      all := by
  intro fuel i line l happroach hfuel
  simp only [List.length_append, List.length_cons] at hfuel
  obtain ⟨fuel, rfl⟩ : ∃ fuel', fuel = fuel' + 3 := ⟨fuel - 3, by omega⟩
  have hindent := Level.indent_opened hle
  have hcolon : StartsToken (':' :: rest) := startsToken_cons (by decide) (by decide) (by decide)
  have hinside : (v.opened width).indent < (width + indentStep : Nat) := by
    unfold indentStep
    omega
  obtain ⟨l', i', line', hstep, happroach'⟩ := @step_text_line key.toList k (':' :: rest)
    (i + 1 + 1) line (width + 1 + 1) width _ _ (ts ++ (v.opening width ++ [.key]))
      (v.opened width) true hk (Nat.succ_pos _) hinside (by omega) (by omega) hcolon
      (startsWithMark_blanks hpos)
  have hblank := @approach_blank _ (i + 1) line (width + 1) (ts ++ (v.opening width ++ [.key]))
    (v.opened width) true (hk.startsToken ('\n' :: (List.replicate width ' ' ++ ':' :: rest)))
    (by omega)
  rw [unwind_of_le (l := after ts v true _) hle] at happroach
  rw [unwind_of_le (l := after _ (v.opened width) true _) (Int.le_of_eq hindent)] at happroach'
  rw [run_of_step happroach (List.cons_ne_nil _ _) (step_question rfl),
    run_of_step hblank (by simp [after]) hstep,
    run_of_step happroach' (List.cons_ne_nil _ _) (step_colon_line hindent hrest)]
  have htoken : keyToken key = textToken (styleOf false key.toList) key.toList := by
    rw [keyToken, hsimple]
  rw [← htoken]
  simp only [List.append_assoc, List.cons_append, List.nil_append]
  exact h fuel _ _ _ (by omega) (by omega)

theorem runs_key {t : List Char} (hkey : KeyWritten width key.toList t) (hfits : KeyFits key)
    (hwidth : width + indentStep < lineWidth) (hle : v.indent ≤ width) (hpos : 0 < width)
    (hrest : gapFollows rest)
    (h : RunsOn (!isSimpleKey key.toList) (ts ++ (v.opening width ++ [.key, keyToken key, .value]))
      (v.opened width) rest all) : Runs ts v width (t ++ rest) all := by
  cases hkey with
  | simple hsimple =>
    rw [hsimple] at h
    rw [List.append_assoc]
    exact runs_simpleKey hsimple (hfits hsimple) hwidth hle hrest h
  | complex hsimple hk =>
    rw [hsimple] at h
    have hruns := runs_complexKey hsimple hk hle hpos hrest h
    simpa using hruns

/-! ## Values -/

/-- The rest of a text from a token on, with the blanks before it on its line. -/
structure IsLine (k : Nat) (rest : List Char) : Prop where
  starts : StartsToken rest
  mark : startsWithMark (List.replicate k ' ' ++ rest) = false

/-- A scalar on the line of its key. -/
theorem RunsOn.written (hw : Written (width + indentStep) cs style w) (hindent : v.indent = width)
    (hk : k ≤ width) (hrest : IsLine k rest) (h : Runs (ts ++ [textToken style cs]) v k rest all) :
    RunsOn mayStartKey ts v (' ' :: (w ++ '\n' :: (List.replicate k ' ' ++ rest))) all := by
  intro fuel i line column hcolumn hfuel
  simp only [List.length_append, List.length_cons] at hfuel
  obtain ⟨fuel, rfl⟩ : ∃ fuel', fuel = fuel' + 1 := ⟨fuel - 1, by omega⟩
  obtain ⟨l, i', line', hstep, happroach⟩ := @step_text_line cs w rest (i + 1)
    line (column + 1) k _ _ ts v mayStartKey hw
      (Nat.succ_pos _) (by unfold indentStep; omega) (by omega) (by omega) hrest.starts hrest.mark
  have hblank := @approach_blank _ i line column ts v mayStartKey
    (hw.startsToken ('\n' :: (List.replicate k ' ' ++ rest))) (by omega)
  rw [run_of_step hblank (by simp [after]) hstep]
  exact h fuel i' line' l happroach (by omega)

/-- A value on the line of its key. -/
theorem RunsOn.text (hvalue : ValueWritten width value t) (hindent : v.indent = width)
    (hk : k ≤ width) (hrest : IsLine k rest) (h : Runs (ts ++ [valueToken value]) v k rest all) :
    RunsOn mayStartKey ts v (t ++ (List.replicate k ' ' ++ rest)) all := by
  obtain ⟨w, hw, rfl⟩ := hvalue
  have htext : ' ' :: (w ++ ['\n']) ++ (List.replicate k ' ' ++ rest) =
      ' ' :: (w ++ '\n' :: (List.replicate k ' ' ++ rest)) := by simp
  rw [htext]
  exact .written hw hindent hk hrest h

/-- The lines of a group after its key. -/
theorem RunsOn.lines (hrest : StartsToken rest) (h : Runs ts v k rest all) :
    RunsOn mayStartKey ts v ('\n' :: (List.replicate k ' ' ++ rest)) all := by
  intro fuel i line column _ hfuel
  simp only [List.length_append, List.length_cons] at hfuel
  exact h fuel _ _ _ (approach_newline hrest) (by omega)

theorem approach_closing_brace {l : Lexer} (hcursor : l.cursor = .before ('\x7d' :: rest) i line k)
    (hpending : l.pending = []) (hflow : l.flow = 1) : l.approach = .ok l := by
  have hskip : l.skipGap = l := by
    rw [skipGap_blanks (n := 0) (startsToken_cons (by decide) (by decide) (by decide)) hcursor]
    exact congrArg (fun c => { l with cursor := c }) hcursor.symm
  rw [approach, hskip, dropStale_nil hpending]
  refine congrArg Except.ok ?_
  rw [unwind, inFlow, hflow]
  rfl

/-- The braces of an empty group. -/
theorem RunsOn.braces (hrest : StartsToken rest)
    (h : Runs (ts ++ [.flowMappingStart, .flowMappingEnd]) v k rest all) :
    RunsOn false ts v (' ' :: '\x7b' :: '\x7d' :: '\n' :: (List.replicate k ' ' ++ rest)) all := by
  intro fuel i line column hcolumn hfuel
  simp only [List.length_append, List.length_cons] at hfuel
  obtain ⟨fuel, rfl⟩ : ∃ fuel', fuel = fuel' + 2 := ⟨fuel - 2, by omega⟩
  have hbrace := @approach_blank ('\x7b' :: '\x7d' :: '\n' :: (List.replicate k ' ' ++ rest)) i line
    column ts v false (startsToken_cons (by decide) (by decide) (by decide)) (by omega)
  rw [run_of_step hbrace (List.cons_ne_nil _ _) step_brace,
    run_of_step (approach_closing_brace rfl rfl rfl) (List.cons_ne_nil _ _) step_closing_brace]
  simp only [List.append_assoc, List.cons_append, List.nil_append]
  exact h fuel _ _ _ (approach_newline hrest) (by omega)

/-! ## Ends -/

/-- The end of a collection, at a line that is not indented as far. More collections may end
there. -/
theorem Runs.close (hlt : k < width) (h : Runs (ts ++ [.blockEnd]) v k rest all) :
    Runs ts (v.at width) k rest all := by
  intro fuel i line l happroach hfuel
  refine h fuel i line l ?_ hfuel
  have hemit : { (after ts (v.at width) true (.before rest i line k)).emit .blockEnd with
      indent := v.indent, outer := v.outer } =
        after (ts ++ [.blockEnd]) v true (.before rest i line k) := by
    simp [after, emit]
  rw [happroach, ← hemit]
  exact congrArg Except.ok (unwind_succ rfl rfl (Int.ofNat_lt.2 hlt))

/-- The end of the text. -/
theorem runs_end : Runs ts (Level.at 0 {}) 0 [] (ts ++ [.blockEnd, .streamEnd]) := by
  intro fuel i line l happroach hfuel
  obtain ⟨fuel, rfl⟩ : ∃ fuel', fuel = fuel' + 1 := ⟨fuel - 1, by omega⟩
  rw [unwind_of_le (l := after ts _ true _) (Int.le_refl 0)] at happroach
  have hunwind : (after ts (Level.at 0 {}) true (.before [] i line 0)).unwind (-1) =
      after (ts ++ [.blockEnd]) {} true (.before [] i line 0) := by
    have hlt : (-1 : Int) < (0 : Nat) := by decide
    rw [unwind_one (l := after ts _ true _) rfl rfl hlt (Int.le_refl _)]
    simp [after, emit]
  have hfinish : (after ts (Level.at 0 {}) true (.before [] i line 0)).finish =
      .ok (after (ts ++ [.blockEnd, .streamEnd]) {} true (.before [] i line 0)) := by
    rw [finish, hunwind]
    simp [after, forgetKey, emit, pure, Except.pure, bind, Except.bind]
  rw [run_of_finish happroach rfl hfinish]
  simp [after]

end Lexer
end StackCompiler.Yaml
