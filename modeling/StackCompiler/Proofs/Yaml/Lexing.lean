import StackCompiler.Proofs.Yaml.QuotedText
import StackCompiler.Yaml.Lexer

/-!
# Cutting written texts

How a lexer comes to the next token (`Lexer.approach`) and what it does there: a text that was
written becomes one scalar (`Lexer.step_text`), and a colon makes a key of the
scalar that is pending (`Lexer.step_colon`).
-/

namespace StackCompiler.Yaml

variable {cs w rest : List Char} {c : Char} {i line k n width : Nat} {style : Style}

/-- A text that begins with a token, or the end. -/
def StartsToken (cs : List Char) : Prop := ∀ c ∈ cs.head?, isPlainAscii c ∧ c ≠ ' ' ∧ c ≠ '#'

theorem startsToken_nil : StartsToken [] := fun c hc => by cases hc

theorem startsToken_cons (hplain : isPlainAscii c) (hblank : c ≠ ' ') (hcomment : c ≠ '#') :
    StartsToken (c :: rest) := fun _ hd => Option.some.inj hd ▸ ⟨hplain, hblank, hcomment⟩

theorem StartsToken.startsWord (h : StartsToken cs) : StartsWord cs := fun c hc =>
  isGap_of_isPlainAscii (h c hc).1 (h c hc).2.1

theorem StartsToken.headD_ne (h : StartsToken cs) (hc : isPlainAscii c = false ∨ c = '#')
    (hnull : c ≠ '\x00') : cs.headD '\x00' ≠ c := by
  cases cs with
  | nil => exact hnull.symm
  | cons d cs =>
    obtain ⟨hplain, -, hcomment⟩ := h d rfl
    intro heq
    rcases hc with hc | hc
    · exact ne_of_isPlainAscii hplain hc heq
    · exact hcomment (heq.trans hc)

namespace Lexer

/-! ## States -/

/-- The column of the innermost block collection, and those of the collections around it. -/
structure Level where
  indent : Int := -1
  outer : List Int := []

/-- The level inside a collection at a column. -/
def Level.at (width : Nat) (v : Level) : Level := ⟨width, v.indent :: v.outer⟩

/-- A lexer that has cut some tokens, where no flow collection is open. -/
def after (ts : List Token) (v : Level) (mayStartKey : Bool) (c : Cursor)
    (pending : List (Nat × PendingKey) := []) : Lexer :=
  { cursor := c, indent := v.indent, outer := v.outer, mayStartKey, pending, tokens := ts.reverse,
    count := ts.length }

/-! ## Gaps -/

section Gaps

variable {l : Lexer}

theorem skipGap_go_succ (fuel : Nat) (l : Lexer) : skipGap.go (fuel + 1) l =
    let c := l.cursor.skipSpaces
    let c := if c.peek == '#' then c.skipWhile fun d => !isBreak d else c
    match c.lineBreak? with
    | some (_, c) =>
      skipGap.go fuel { l with cursor := c, mayStartKey := l.mayStartKey || !l.inFlow }
    | none => { l with cursor := c } := (rfl)

theorem skipGap_go_blanks (fuel : Nat) (h : StartsToken rest)
    (hcursor : l.cursor = .before (List.replicate n ' ' ++ rest) i line k) :
    skipGap.go (fuel + 1) l = { l with cursor := .before rest (i + n) line (k + n) } := by
  have hspaces : l.cursor.skipSpaces = .before rest (i + n) line (k + n) := by
    rw [hcursor]
    exact Cursor.skipSpaces_before fun c hc => (h c hc).2.1
  have hcomment : (rest.headD '\x00' == '#') = false :=
    beq_eq_false_iff_ne.2 (h.headD_ne (.inr rfl) (by decide))
  rw [skipGap_go_succ, hspaces]
  dsimp only
  rw [Cursor.peek_before, hcomment, if_neg Bool.false_ne_true,
    Cursor.lineBreak?_eq_none h.startsWord.isBreak_headD]

theorem skipGap_go_newline (fuel : Nat) (h : StartsToken rest)
    (hcursor : l.cursor = .before ('\n' :: (List.replicate n ' ' ++ rest)) i line k) :
    skipGap.go (fuel + 2) l = { l with
      cursor := .before rest (i + 1 + n) (line + 1) n
      mayStartKey := l.mayStartKey || !l.inFlow } := by
  have hspaces : l.cursor.skipSpaces = l.cursor := by
    rw [hcursor]
    exact @Cursor.skipSpaces_before ('\n' :: (List.replicate n ' ' ++ rest)) i line k 0 (by simp)
  rw [skipGap_go_succ, hspaces, hcursor]
  dsimp only
  rw [Cursor.peek_before, List.headD_cons, if_neg (by decide), Cursor.lineBreak?_newline]
  dsimp only
  rw [skipGap_go_blanks fuel h rfl, Nat.zero_add]

theorem skipGap_eq_go (h : l.cursor.peek ≠ '\uFEFF') :
    l.skipGap = skipGap.go (l.cursor.left + 1) l := by
  have hmark : ¬(l.cursor.index = 0 ∧ l.cursor.peek = '\uFEFF') := fun hc => h hc.2
  rw [skipGap, if_neg hmark]

theorem skipGap_blanks (h : StartsToken rest)
    (hcursor : l.cursor = .before (List.replicate n ' ' ++ rest) i line k) :
    l.skipGap = { l with cursor := .before rest (i + n) line (k + n) } := by
  rw [skipGap_eq_go, skipGap_go_blanks _ h hcursor]
  rw [hcursor, Cursor.peek_before]
  cases n with
  | zero => exact h.headD_ne (.inl (by decide)) (by decide)
  | succ n => exact (by decide : ' ' ≠ '\uFEFF')

theorem skipGap_newline (h : StartsToken rest)
    (hcursor : l.cursor = .before ('\n' :: (List.replicate n ' ' ++ rest)) i line k) :
    l.skipGap = { l with
      cursor := .before rest (i + 1 + n) (line + 1) n
      mayStartKey := l.mayStartKey || !l.inFlow } := by
  have hpeek : l.cursor.peek ≠ '\uFEFF' := by
    rw [hcursor]
    exact (by decide : '\n' ≠ '\uFEFF')
  rw [skipGap_eq_go hpeek, ← skipGap_go_newline _ h hcursor, hcursor, Cursor.left_before,
    List.length_cons]

end Gaps

/-! ## Pending keys and levels -/

section Pending

variable {l : Lexer} {key : PendingKey}

theorem dropStale_nil (h : l.pending = []) : l.dropStale = .ok l := by
  have hsame : { l with pending := [] } = l := by rw [← h]
  rw [dropStale, h]
  exact congrArg Except.ok hsame

theorem dropStale_stale (h : l.pending = [(0, key)]) (hstale : l.isStale key)
    (hoptional : key.isRequired = false) : l.dropStale = .ok { l with pending := [] } := by
  rw [dropStale, h]
  simp [hstale, hoptional]

theorem dropStale_required (h : l.pending = [(0, key)]) (hstale : l.isStale key)
    (hrequired : key.isRequired) : l.dropStale = .error .malformed := by
  rw [dropStale, h]
  simp [hstale, hrequired]

theorem dropStale_fresh (h : l.pending = [(0, key)]) (hfresh : l.isStale key = false) :
    l.dropStale = .ok l := by
  have hsame : { l with pending := [(0, key)] } = l := by rw [← h]
  rw [dropStale, h]
  simpa [hfresh] using hsame

/-- The token at the cursor as a key. -/
def keyHere (l : Lexer) : PendingKey :=
  ⟨l.count, !l.inFlow && l.indent == l.cursor.column, l.cursor.index, l.cursor.line,
    l.cursor.column⟩

/-- The token at the cursor is pending, if it may start a key. -/
def noted (l : Lexer) : Lexer :=
  if l.mayStartKey then { l with pending := [(l.flow, l.keyHere)] } else l

theorem noteKey_eq (h : l.pending = []) : l.noteKey = .ok l.noted := by
  have hforget : l.forgetKey = .ok l := by
    rw [forgetKey, h]
    rfl
  rw [noteKey, noted]
  split
  · rw [hforget]
    exact congrArg (fun p => Except.ok { l with pending := (l.flow, l.keyHere) :: p }) h
  · rfl

theorem unwind_of_le {column : Int} (h : l.indent ≤ column) : l.unwind column = l := by
  rw [unwind]
  split
  · rfl
  · cases l.outer with
    | nil => rfl
    | cons j outer => rw [unwind.go, if_neg (Int.not_lt.2 h)]

/-- The end of one block collection, and then of those around it. -/
theorem unwind_succ {column j : Int} {outer : List Int} (hflow : l.flow = 0)
    (houter : l.outer = j :: outer) (hlt : column < l.indent) :
    l.unwind column = { l.emit .blockEnd with indent := j, outer }.unwind column := by
  have hinFlow : l.inFlow = false := by
    rw [inFlow, hflow]
    rfl
  have hemitted : { l.emit .blockEnd with indent := j, outer }.inFlow = false := hinFlow
  rw [unwind, unwind, hinFlow, hemitted, houter, if_neg Bool.false_ne_true,
    if_neg Bool.false_ne_true, unwind.go, if_pos hlt]

theorem unwind_one {column j : Int} {outer : List Int} (hflow : l.flow = 0)
    (houter : l.outer = j :: outer) (hlt : column < l.indent) (hle : j ≤ column) :
    l.unwind column = { l.emit .blockEnd with indent := j, outer } := by
  rw [unwind_succ hflow houter hlt]
  exact unwind_of_le hle

end Pending

/-! ## Runs -/

/-- A lexer that has come to the next token, after the ends of the collections before it. -/
def approach (l : Lexer) : Except Fault Lexer := do
  let l ← l.skipGap.dropStale
  return l.unwind l.cursor.column

theorem run_succ (fuel : Nat) (l : Lexer) : run (fuel + 1) l =
    match l.approach with
    | .error f => l.interrupted f
    | .ok next =>
      if next.cursor.rest.isEmpty then
        match next.finish with
        | .ok done => done.tokens.reverse
        | .error f => l.interrupted f
      else match next.step with
        | .ok next => run fuel next
        | .error f => l.interrupted f := by
  change (match l.skipGap.dropStale with
    | .error f => l.interrupted f
    | .ok next =>
      let next := next.unwind next.cursor.column
      if next.cursor.rest.isEmpty then
        match next.finish with
        | .ok done => done.tokens.reverse
        | .error f => l.interrupted f
      else match next.step with
        | .ok next => run fuel next
        | .error f => l.interrupted f) = _
  rw [approach]
  cases l.skipGap.dropStale <;> rfl

theorem run_of_step {l next l' : Lexer} {fuel : Nat} (happroach : l.approach = .ok next)
    (hrest : next.cursor.rest ≠ []) (hstep : next.step = .ok l') :
    run (fuel + 1) l = run fuel l' := by
  rw [run_succ, happroach]
  dsimp only
  rw [if_neg (by simpa using hrest), hstep]

theorem run_of_approach_error {l : Lexer} {fuel : Nat} {f : Fault}
    (happroach : l.approach = .error f) : run (fuel + 1) l = l.interrupted f := by
  rw [run_succ, happroach]

theorem run_of_step_error {l next : Lexer} {fuel : Nat} {f : Fault}
    (happroach : l.approach = .ok next) (hrest : next.cursor.rest ≠ [])
    (hstep : next.step = .error f) : run (fuel + 1) l = l.interrupted f := by
  rw [run_succ, happroach]
  dsimp only
  rw [if_neg (by simpa using hrest), hstep]

theorem run_of_finish {l next l' : Lexer} {fuel : Nat} (happroach : l.approach = .ok next)
    (hrest : next.cursor.rest = []) (hfinish : next.finish = .ok l') :
    run (fuel + 1) l = l'.tokens.reverse := by
  rw [run_succ, happroach]
  dsimp only
  rw [hrest, List.isEmpty_nil, if_pos rfl, hfinish]

/-! ## Texts -/

/-- The scalar of a text that was written in a style. -/
def textToken (style : Style) (cs : List Char) : Token := .scalar cs (style == .plain)

section Texts

variable {l : Lexer}

theorem inFlow_eq_false (h : l.flow = 0) : l.inFlow = false := by
  rw [inFlow, h]
  rfl

/-- At the first character of a plain text. -/
theorem step_plain (h : IsPlainText (c :: cs)) (hflow : l.flow = 0)
    (hcursor : l.cursor = .before (c :: rest) i line k)
    (hmark : k = 0 → startsWithMark (c :: rest) = false)
    (hnext : c = '-' ∨ c = '?' ∨ c = ':' → isGap (rest.headD '\x00') = false) :
    l.step = l.plain := by
  obtain ⟨hgap, hlead, -, -⟩ := h.cons
  have hinFlow := inFlow_eq_false hflow
  have hpeekAt : l.cursor.peekAt 1 = rest.headD '\x00' := by
    rw [hcursor, Cursor.peekAt_before, List.drop_one, List.tail_cons]
  have hatMark : (l.cursor.column == 0 && l.cursor.isAtMark) = false := by
    rw [hcursor, Cursor.isAtMark, Cursor.rest_before, Cursor.column_before]
    cases hk : k == 0 with
    | false => rfl
    | true => rw [hmark (beq_iff_eq.1 hk), Bool.false_and, Bool.true_and]
  have hother : ∀ d, d = '-' ∨ d = '?' ∨ d = ':' →
      ¬(c = d ∧ isGap (l.cursor.peekAt 1) = true) := by
    rintro d hd ⟨rfl, hafter⟩
    rw [hpeekAt, hnext hd] at hafter
    cases hafter
  have hdash := hother '-' (.inl rfl)
  have hquestion := hother '?' (.inr (.inl rfl))
  have hcolon := hother ':' (.inr (.inr rfl))
  have hpeek : l.cursor.peek = c := by rw [hcursor, Cursor.peek_before, List.headD_cons]
  simp [isLeadIndicator] at hlead
  have hstarts : l.startsPlain := by
    by_cases hspecial : c = '-' ∨ c = '?' ∨ c = ':'
    · have hafter : isGap (l.cursor.peekAt 1) = false := hpeekAt ▸ hnext hspecial
      rcases hspecial with rfl | rfl | rfl <;> simp [startsPlain, hpeek, hafter, hinFlow]
    · simp only [not_or] at hspecial
      simp [startsPlain, hpeek, hgap, hlead, hspecial]
  unfold step
  simp [hatMark, hinFlow, hstarts, hpeek, hlead, hdash, hquestion, hcolon]

/-- At the mark before a quoted text. -/
theorem step_quote (isDouble : Bool)
    (hcursor : l.cursor = .before (quote isDouble :: rest) i line k) :
    l.step = l.content (quoted isDouble) := by
  have hpeek : l.cursor.peek = quote isDouble := by
    rw [hcursor, Cursor.peek_before, List.headD_cons]
  unfold step
  cases isDouble <;> simp [hpeek, quote]

theorem noted_cursor (l : Lexer) : l.noted.cursor = l.cursor := by
  unfold noted
  split <;> rfl

theorem content_eq {read : Cursor → Except Fault (Token × Cursor)} {t : Token} {next : Cursor}
    (hpending : l.pending = []) (hread : read l.cursor = .ok (t, next)) :
    l.content read = .ok { l.noted.emit t with cursor := next, mayStartKey := false } := by
  rw [content, noteKey_eq hpending]
  change (read l.noted.cursor >>= _) = _
  rw [noted_cursor, hread]
  rfl

/-- A text that was written becomes one scalar. A plain text is read with what `plainGap` takes
after it. -/
theorem step_text {gap? : Option (List Char)} {ended : Bool} {next : Cursor}
    (hw : Written width cs style w) (hwidth : 0 < width) (hpending : l.pending = [])
    (hflow : l.flow = 0) (hcursor : l.cursor = .before (w ++ rest) i line k)
    (hindent : l.indent < width) (hcolumn : l.indent ≤ k)
    (hmark : k = 0 → startsWithMark (w ++ rest) = false) (hrest : plainRun false rest = [])
    (hquote : rest.headD '\x00' ≠ '\'')
    (hgap : plainGap (.past w rest i line k) = (gap?, ended, next))
    (hend : gap? = none ∨ (next.column : Int) ≤ l.indent) :
    ∃ stop mayStartKey, l.step =
        .ok { l.noted.emit (textToken style cs) with cursor := stop, mayStartKey } ∧
      (stop = .past w rest i line k ∧ mayStartKey = false ∨ stop = next ∧ mayStartKey = ended) := by
  cases hw with
  | plain hplain hfolded =>
    obtain ⟨c, cs, rfl⟩ := List.exists_cons_of_ne_nil hplain.ne_nil
    obtain ⟨hcgap, -, hspecial, -⟩ := hplain.cons
    obtain ⟨w', rfl, hfolded'⟩ := hfolded.exists_cons hcgap
    have hnext : c = '-' ∨ c = '?' ∨ c = ':' → isGap ((w' ++ rest).headD '\x00') = false := by
      intro hc
      have hbool : (c == '?' || c == ':' || c == '-') = true := by
        rcases hc with rfl | rfl | rfl <;> rfl
      rw [hbool, Bool.true_and] at hspecial
      cases cs with
      | nil => cases hspecial
      | cons d cs =>
        obtain ⟨w'', rfl, -⟩ := hfolded'.exists_cons hspecial
        exact hspecial
    have hread := plainScalar_folded hplain hfolded hwidth hindent hcolumn hrest hgap hend
    refine ⟨next, ended, ?_, .inr ⟨rfl, rfl⟩⟩
    rw [step_plain hplain hflow hcursor hmark hnext, plain, noteKey_eq hpending]
    have hindentNoted : l.noted.indent = l.indent := by
      unfold noted
      split <;> rfl
    have hinFlow : l.noted.inFlow = false := by
      unfold noted
      split <;> exact inFlow_eq_false hflow
    dsimp only [bind, Except.bind]
    rw [noted_cursor, hcursor, hinFlow, hindentNoted, hread]
    rfl
  | @quoted w hchars hfolded =>
    have hread := (hfolded.closes hwidth hchars hquote).quotedScalar (i := i) (l := line) (k := k)
    rw [List.cons_append, List.append_assoc, List.singleton_append] at hcursor
    refine ⟨_, false, ?_, .inl ⟨rfl, rfl⟩⟩
    rw [step_quote false hcursor]
    refine content_eq hpending ?_
    rw [hcursor, quoted]
    exact congrArg (· >>= _) hread
  | @escaped w hescaped =>
    have hclosed := @Escaped.closes _ _ rest _ hescaped hwidth
    have hread := hclosed.quotedScalar (i := i) (l := line) (k := k)
    rw [List.cons_append, List.append_assoc, List.singleton_append] at hcursor
    refine ⟨_, false, ?_, .inl ⟨rfl, rfl⟩⟩
    rw [step_quote true hcursor]
    refine content_eq hpending ?_
    rw [hcursor, quoted]
    exact congrArg (· >>= _) hread

end Texts

/-! ## Indicators -/

/-- The start of a mapping at a column, unless one is open there. -/
def Level.opening (width : Nat) (v : Level) : List Token :=
  if v.indent < width then [.blockMappingStart] else []

/-- The level inside the mapping at a column. -/
def Level.opened (width : Nat) (v : Level) : Level := if v.indent < width then v.at width else v

section Indicators

variable {ts : List Token} {t : Token} {v : Level} {key : PendingKey}

theorem step_indicator {l : Lexer} {mark : Char} (hmark : mark = '?' ∨ mark = ':')
    (hcursor : l.cursor = .before (mark :: rest) i line k) (hgap : gapFollows rest) :
    l.step = if mark = '?' then l.key else l.value := by
  have hpeek : l.cursor.peek = mark := by rw [hcursor, Cursor.peek_before, List.headD_cons]
  have hafter : isGap (l.cursor.peekAt 1) := by
    rw [hcursor, Cursor.peekAt_before, List.drop_one, List.tail_cons]
    cases rest with
    | nil => decide
    | cons c rest => exact hgap
  unfold step
  rcases hmark with rfl | rfl <;> simp [hpeek, hafter]

theorem advanceBy_mark (hplain : isPlainAscii c) :
    (Cursor.before (c :: rest) i line k).advanceBy 1 = .before rest (i + 1) line (k + 1) :=
  Cursor.advanceBy_one (Cursor.isOnLine_of_isPlainAscii hplain)

/-- At the colon after a pending key. -/
theorem step_colon (hplace : key.tokenIndex = ts.length) (hcolumn : key.column = width)
    (hgap : gapFollows rest) :
    step (after (ts ++ [t]) v false (.before (':' :: rest) i line k) [(0, key)]) =
      .ok (after (ts ++ (v.opening width ++ [.key, t, .value])) (v.opened width) false
        (.before rest (i + 1) line (k + 1))) := by
  have hadvance := @advanceBy_mark rest ':' i line k (by decide)
  have hsecond : ts.length + 1 + 1 - ts.length = 2 := by omega
  rw [step_indicator (.inr rfl) rfl hgap, if_neg (by decide), value]
  by_cases hopen : v.indent < width
  · simp [after, Level.opening, Level.opened, hopen, openBlock, emitAt, emitMark, emit,
      hplace, hcolumn, inFlow, hadvance, Level.at, hsecond, pure, Except.pure]
  · simp [after, Level.opening, Level.opened, hopen, openBlock, emitAt, emitMark, emit,
      hplace, hcolumn, inFlow, hadvance, pure, Except.pure]

/-- At the question mark before a key. -/
theorem step_question (hgap : gapFollows rest) :
    step (after ts v true (.before ('?' :: rest) i line k)) =
      .ok (after (ts ++ (v.opening k ++ [.key])) (v.opened k) true
        (.before rest (i + 1) line (k + 1))) := by
  have hadvance := @advanceBy_mark rest '?' i line k (by decide)
  rw [step_indicator (.inl rfl) rfl hgap, if_pos rfl, Lexer.key]
  by_cases hopen : v.indent < k
  · simp [after, Level.opening, Level.opened, hopen, openBlock, openHere, forgetKey, emitAt,
      emitMark, emit, inFlow, hadvance, Level.at, pure, Except.pure, bind, Except.bind]
  · simp [after, Level.opening, Level.opened, hopen, openBlock, openHere, forgetKey, emitMark, emit,
      inFlow, hadvance, pure, Except.pure, bind, Except.bind]

/-- At the colon after a key that stands after a question mark. -/
theorem step_colon_line (hcolumn : v.indent = k) (hgap : gapFollows rest) :
    step (after ts v true (.before (':' :: rest) i line k)) =
      .ok (after (ts ++ [.value]) v true (.before rest (i + 1) line (k + 1))) := by
  have hadvance := @advanceBy_mark rest ':' i line k (by decide)
  rw [step_indicator (.inr rfl) rfl hgap, if_neg (by decide), value]
  simp [after, openBlock, openHere, emitMark, emit, inFlow, hadvance, hcolumn, pure, Except.pure,
    bind, Except.bind]

/-- At a colon that no key can come before. -/
theorem step_colon_error (hgap : gapFollows rest) :
    step (after ts v false (.before (':' :: rest) i line k)) = .error .malformed := by
  rw [step_indicator (.inr rfl) rfl hgap, if_neg (by decide), value]
  rfl

/-- At the braces of an empty mapping. -/
theorem step_brace : step (after ts v false (.before ('\x7b' :: rest) i line k)) =
    .ok { after (ts ++ [.flowMappingStart]) v true (.before rest (i + 1) line (k + 1)) with
      flow := 1 } := by
  have hadvance := @advanceBy_mark rest '\x7b' i line k (by decide)
  have hstep : step (after ts v false (.before ('\x7b' :: rest) i line k)) =
      (after ts v false (.before ('\x7b' :: rest) i line k)).flowStart .flowMappingStart := by
    simp [step, after]
  rw [hstep, flowStart, noteKey]
  simp [after, emitMark, emit, hadvance, pure, Except.pure, bind, Except.bind]

theorem step_closing_brace {mayStartKey : Bool} :
    step { after ts v mayStartKey (.before ('\x7d' :: rest) i line k) with flow := 1 } =
      .ok (after (ts ++ [.flowMappingEnd]) v false (.before rest (i + 1) line (k + 1))) := by
  have hadvance := @advanceBy_mark rest '\x7d' i line k (by decide)
  have hstep :
      step { after ts v mayStartKey (.before ('\x7d' :: rest) i line k) with flow := 1 } =
        flowEnd .flowMappingEnd
          { after ts v mayStartKey (.before ('\x7d' :: rest) i line k) with flow := 1 } := by
    simp [step, after]
  rw [hstep, flowEnd, forgetKey]
  simp [after, emitMark, emit, hadvance, inFlow, pure, Except.pure, bind, Except.bind]

end Indicators

end Lexer
end StackCompiler.Yaml
