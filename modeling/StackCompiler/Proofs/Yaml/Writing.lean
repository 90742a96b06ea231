import StackCompiler.Proofs.Yaml.Escaping

/-!
# The written form of sheets

A `Sheet` is a mapping of texts to texts and to mappings of texts. `Written width cs style w` says
that `w` is a way to write the text `cs` in a style; a key that fits on its line is always written
in the same way (`keyForm`), and any other key stands after a question mark. A sheet is written with
its entries one after the other (`exists_written_write`).
-/

namespace StackCompiler.Yaml

variable {cs : List Char} {c : Char} {pen : Pen} {width : Nat}

/-! ## Styles -/

/-- Characters that can be written as they are. -/
structure IsPlainText (cs : List Char) : Prop where
  ne_nil : cs ≠ []
  chars : ∀ c ∈ cs, isPlainAscii c
  head : cs.head? ≠ some ' '
  last : cs.getLast? ≠ some ' '
  indicators : hasIndicators cs = false

theorem isWrittenChar_of_not_special
    (h : (cs.any fun c => !(c == '\n' || isPlainAscii c)) = false) : ∀ c ∈ cs, isWrittenChar c := by
  intro c hc
  have hchar := List.any_eq_false.1 h c hc
  rw [isWrittenChar, Bool.or_comm]
  simpa only [Bool.not_eq_true', Bool.not_eq_false] using hchar

/-- A text is written plain only if it reads back as a text. -/
theorem plain_of_styleOf {isKey : Bool} (h : styleOf isKey cs = .plain) :
    Tag.implied cs = .str ∧ (traits cs).allowsPlain := by
  dsimp only [styleOf] at h
  split at h
  · rename_i hplain
    simp only [Bool.and_eq_true, beq_iff_eq] at hplain
    exact hplain.1
  · split at h <;> cases h

theorem isPlainText_of_styleOf {isKey : Bool} (h : styleOf isKey cs = .plain) : IsPlainText cs := by
  obtain ⟨himplied, hallows⟩ := plain_of_styleOf h
  simp only [traits, Bool.not_eq_true', Bool.or_eq_false_iff] at hallows
  obtain ⟨⟨⟨⟨⟨⟨hhead, hlast⟩, -⟩, -⟩, hspecial⟩, hbreaks⟩, hindicators⟩ := hallows
  refine ⟨?_, fun c hc => ?_, fun heq => ?_, fun heq => ?_, hindicators⟩
  · rintro rfl
    exact absurd himplied (by decide)
  · refine isPlainAscii_of_isWrittenChar (isWrittenChar_of_not_special hspecial c hc) ?_
    rintro rfl
    exact absurd (List.any_eq_false.1 hbreaks '\n' hc) (by decide)
  · rw [heq] at hhead
    exact absurd hhead (by decide)
  · rw [heq] at hlast
    exact absurd hlast (by decide)

theorem quotes_of_styleOf {isKey : Bool} (h : styleOf isKey cs = .quoted) :
    (∀ c ∈ cs, isWrittenChar c) ∧ hasPair isBlankChar isBreak cs = false ∧
      hasPair isBreak isBlankChar cs = false := by
  dsimp only [styleOf] at h
  split at h
  · cases h
  · split at h
    · rename_i hquoted
      obtain ⟨hallows, -⟩ := Bool.and_eq_true_iff.1 hquoted
      simp only [traits, Bool.not_eq_true', Bool.or_eq_false_iff] at hallows
      obtain ⟨⟨hafter, hbefore⟩, hspecial⟩ := hallows
      exact ⟨isWrittenChar_of_not_special hspecial, hbefore, hafter⟩
    · cases h

/-! ## Texts -/

inductive Written (width : Nat) (cs : List Char) : Style → List Char → Prop where
  | plain {w : List Char} : IsPlainText cs → Folded width cs w → Written width cs .plain w
  | quoted {w : List Char} : (∀ c ∈ cs, isWrittenChar c) → Folded width cs w →
    Written width cs .quoted ('\'' :: (doubled w ++ ['\'']))
  | escaped {w : List Char} : Escaped width cs w → Written width cs .escaped ('"' :: (w ++ ['"']))

/-- A key as it is written on one line. -/
def keyForm (cs : List Char) : List Char :=
  match styleOf true cs with
  | .plain => cs
  | .quoted => '\'' :: (doubled cs ++ ['\''])
  | .escaped => '"' :: (cs.flatMap escapedForm ++ ['"'])

/-- A blank, unless there is a gap already. -/
def Pen.gap (pen : Pen) : List Char := if pen.afterGap then [] else [' ']

/-- A pen that has just written something on its line, with the text that is there now. -/
structure Pen.Wrote (pen : Pen) (text : List Char) : Prop where
  text : pen.text.toList = text
  atIndent : pen.atIndent = false
  afterGap : pen.afterGap = false

theorem Pen.Wrote.startsLine {text : List Char} (h : pen.Wrote text) :
    pen.StartsLine (text ++ ['\n']) := by
  intro width
  rw [indent_eq (.inl h.atIndent), ← h.text]
  exact startsLine_newline pen width

theorem toList_indicator (mark : Char) (needsGap staysAtIndent : Bool) (pen : Pen) :
    (pen.indicator mark needsGap staysAtIndent).text.toList =
      pen.text.toList ++ (if needsGap then pen.gap else []) ++ [mark] := by
  change (pen.put _).text.toList = _
  rw [Pen.toList_put, Pen.gap]
  cases pen.afterGap <;> cases needsGap <;> simp

theorem wrote_indicator (mark : Char) (needsGap : Bool) (pen : Pen) :
    (pen.indicator mark needsGap false).Wrote
      (pen.text.toList ++ (if needsGap then pen.gap else []) ++ [mark]) :=
  ⟨toList_indicator mark needsGap false pen, by simp [Pen.indicator], rfl⟩

theorem exists_written_putPlain (hwidth : width ≤ lineWidth) (mayFold : Bool) (h : IsPlainText cs)
    (pen : Pen) : ∃ w, Folded width cs w ∧
      (putPlain width mayFold cs pen).Wrote (pen.text.toList ++ pen.gap ++ w) ∧
        (mayFold = false → w = cs) := by
  have hcs := flatMap_stretches cs
  obtain ⟨w, hw, htext, hflat⟩ := folded_putPlainStretches hwidth mayFold (cut_stretches cs)
    (hcs.symm ▸ h.chars) (if pen.afterGap then pen else pen.put [' '])
  rw [hcs] at hw hflat
  refine ⟨w, hw, ⟨?_, rfl, rfl⟩, hflat⟩
  refine htext.trans (congrArg (· ++ w) ?_)
  rw [Pen.gap]
  cases pen.afterGap <;> simp [Pen.toList_put]

theorem exists_written_putQuoted (hwidth : width ≤ lineWidth) (mayFold : Bool)
    (h : (∀ c ∈ cs, isWrittenChar c) ∧ hasPair isBlankChar isBreak cs = false ∧
      hasPair isBreak isBlankChar cs = false) (pen : Pen) : ∃ w, Folded width cs w ∧
      (putQuoted width mayFold cs pen).Wrote
        (pen.text.toList ++ pen.gap ++ '\'' :: (doubled w ++ ['\''])) ∧
        (mayFold = false → (∀ c ∈ cs, isBreak c = false) → w = cs) := by
  obtain ⟨hchars, hbefore, hafter⟩ := h
  have hcs := flatMap_stretches cs
  obtain ⟨w, hw, htext, hflat⟩ := folded_putQuotedStretches hwidth mayFold (cut_stretches cs)
    (hcs.symm ▸ hchars) (hcs.symm ▸ hbefore) (hcs.symm ▸ hafter) true
    (pen.indicator '\'' true false)
  rw [hcs] at hw hflat
  refine ⟨w, hw, ?_, hflat⟩
  have hclose := wrote_indicator '\'' false (putQuotedStretches width mayFold true (stretches cs)
    (pen.indicator '\'' true false))
  rw [htext, toList_indicator] at hclose
  simpa [putQuoted] using hclose

theorem exists_written_putEscaped (hwidth : width < lineWidth) (mayFold : Bool) (cs : List Char)
    (pen : Pen) : ∃ w, Escaped width cs w ∧
      (putEscaped width mayFold cs pen).Wrote (pen.text.toList ++ pen.gap ++ '"' :: (w ++ ['"'])) ∧
        (mayFold = false → w = cs.flatMap escapedForm) := by
  obtain ⟨w, hw, htext, hflat, -⟩ := escaped_putEscapedChars hwidth mayFold cs true []
    (pen.indicator '"' true false) (wrote_indicator '"' true pen).atIndent
  refine ⟨w, hw, ?_, hflat⟩
  have hclose := wrote_indicator '"' false (putEscapedChars width mayFold true [] cs
    (pen.indicator '"' true false))
  rw [htext, toList_indicator] at hclose
  simpa [putEscaped] using hclose

theorem exists_written_putText (hwidth : width < lineWidth) (isKey : Bool) (cs : List Char)
    (pen : Pen) : ∃ w, Written width cs (styleOf isKey cs) w ∧
      (putText width isKey cs pen).Wrote (pen.text.toList ++ pen.gap ++ w) ∧
        (isKey → (∀ c ∈ cs, isBreak c = false) → w = keyForm cs) := by
  cases hstyle : styleOf isKey cs with
  | plain =>
    have hplain := isPlainText_of_styleOf hstyle
    obtain ⟨w, hw, hwrote, hflat⟩ := exists_written_putPlain hwidth.le (!isKey) hplain pen
    refine ⟨w, .plain hplain hw, ?_, fun hkey _ => ?_⟩
    · rwa [putText, hstyle]
    · rw [hflat (by simp [hkey]), keyForm, ← hkey, hstyle]
  | quoted =>
    have hquotes := quotes_of_styleOf hstyle
    obtain ⟨w, hw, hwrote, hflat⟩ := exists_written_putQuoted hwidth.le (!isKey) hquotes pen
    refine ⟨_, .quoted hquotes.1 hw, ?_, fun hkey hline => ?_⟩
    · rwa [putText, hstyle]
    · rw [hflat (by simp [hkey]) hline, keyForm, ← hkey, hstyle]
  | escaped =>
    obtain ⟨w, hw, hwrote, hflat⟩ := exists_written_putEscaped hwidth (!isKey) cs pen
    refine ⟨_, .escaped hw, ?_, fun hkey _ => ?_⟩
    · rwa [putText, hstyle]
    · rw [hflat (by simp [hkey]), keyForm, ← hkey, hstyle]

/-! ## Keys -/

/-- A key as it is written, up to its colon. -/
inductive KeyWritten (width : Nat) (key : List Char) : List Char → Prop where
  | simple : isSimpleKey key → KeyWritten width key (keyForm key ++ [':'])
  | complex {k : List Char} : isSimpleKey key = false →
    Written (width + indentStep) key (styleOf false key) k → KeyWritten width key
      ('?' :: ' ' :: (k ++ '\n' :: (List.replicate width ' ' ++ [':'])))

theorem isBreak_of_isSimpleKey (h : isSimpleKey cs) : ∀ c ∈ cs, isBreak c = false := by
  simp only [isSimpleKey, Bool.and_eq_true, Bool.not_eq_true'] at h
  exact fun c hc => Bool.eq_false_iff.2 (List.any_eq_false.1 h.1.2 c hc)

theorem exists_written_putKey {text : List Char} (hwidth : width + indentStep < lineWidth)
    (key : String) (h : pen.StartsLine text) :
    ∃ k, KeyWritten width key.toList k ∧ (putKey width (.str key) pen).text.toList =
      text ++ List.replicate width ' ' ++ k ∧ (putKey width (.str key) pen).afterGap = false ∧
        (isSimpleKey key.toList → (putKey width (.str key) pen).atIndent = false) := by
  obtain ⟨htext, hgap⟩ := h width
  cases hsimple : isSimpleKey key.toList with
  | true =>
    obtain ⟨w, -, hwrote, hform⟩ := exists_written_putText hwidth true key.toList (pen.indent width)
    have hcolon := wrote_indicator ':' false
      (putText (width + indentStep) true key.toList (pen.indent width))
    rw [hform rfl (isBreak_of_isSimpleKey hsimple), htext, Pen.gap, hgap] at hwrote
    rw [hwrote.text] at hcolon
    have hput : putKey width (.str key) pen =
        (putText (width + indentStep) true key.toList (pen.indent width)).indicator ':' false
          false :=
      if_pos hsimple
    rw [hput]
    refine ⟨_, .simple hsimple, ?_, hcolon.afterGap, fun _ => hcolon.atIndent⟩
    rw [hcolon.text]
    simp
  | false =>
    obtain ⟨k, hk, hwrote, -⟩ := exists_written_putText hwidth false key.toList
      ((pen.indent width).indicator '?' true true)
    rw [toList_indicator, htext] at hwrote
    have hput : putKey width (.str key) pen =
        ((putText (width + indentStep) false key.toList
          ((pen.indent width).indicator '?' true true)).indent width).indicator ':' true true :=
      if_neg (by simp [isSimpleKeyScalar, hsimple])
    obtain ⟨hline, hlineGap⟩ := hwrote.startsLine width
    rw [hput]
    refine ⟨_, .complex hsimple hk, ?_, rfl, fun hkey => by cases hkey⟩
    rw [toList_indicator, hline, Pen.gap, Pen.gap, Pen.gap, hlineGap, hgap]
    simp [Pen.indicator]

/-! ## Sheets -/

/-- What an entry of a sheet says. -/
inductive Part where
  | text (s : String)
  | group (entries : List (String × String))

/-- A mapping of texts to texts and to groups of texts. -/
abbrev Sheet := List (String × Part)

def Part.data : Part → Data
  | text s => .str s
  | group entries => .record (entries.map fun e => (e.1, .str e.2))

def Sheet.data (sheet : Sheet) : Data := .record (sheet.map fun e => (e.1, e.2.data))

theorem record_map {α : Type} (key : α → String) (data : α → Data) (xs : List α) :
    Data.record (xs.map fun x => (key x, data x)) =
      .map (xs.map fun x => (.str (key x), data x)) := by
  rw [Data.record, List.map_map]
  rfl

/-- A value as it is written after its key. -/
def ValueWritten (width : Nat) (value : String) (t : List Char) : Prop :=
  ∃ v, Written (width + indentStep) value.toList (styleOf false value.toList) v ∧
    t = ' ' :: (v ++ ['\n'])

/-- An entry that says a text, as it is written. -/
def EntryWritten (width : Nat) (e : String × String) (t : List Char) : Prop :=
  ∃ k v, KeyWritten width e.1.toList k ∧ ValueWritten width e.2 v ∧
    t = List.replicate width ' ' ++ (k ++ v)

/-- A part as it is written after its key. -/
inductive Part.Written : Part → List Char → Prop where
  | text {s : String} {t : List Char} : ValueWritten 0 s t → Part.Written (.text s) t
  | empty : Part.Written (.group []) [' ', '\x7b', '\x7d', '\n']
  | group {e : String × String} {es : List (String × String)} {ts : List (List Char)} :
    List.Forall₂ (EntryWritten indentStep) (e :: es) ts →
      Part.Written (.group (e :: es)) ('\n' :: ts.flatten)

/-- An entry of a sheet, as it is written. -/
def PartWritten (e : String × Part) (t : List Char) : Prop :=
  ∃ p, e.2.Written p ∧ t = keyForm e.1.toList ++ ':' :: p

def Sheet.Written (sheet : Sheet) (t : List Char) : Prop :=
  ∃ ts, List.Forall₂ PartWritten sheet ts ∧ t = ts.flatten

/-- Entries are written one after the other. -/
theorem exists_written_putEntries {α : Type} (width : Nat) (key : α → String) (data : α → Data)
    (written : α → List Char → Prop) : ∀ {entries : List α},
      (∀ e ∈ entries, ∀ text pen, Pen.StartsLine pen text → ∃ t, written e t ∧
        (putNode width true (data e) (putKey width (.str (key e)) pen)).StartsLine (text ++ t)) →
      ∀ {text : List Char} {pen : Pen}, pen.StartsLine text → ∃ ts,
        List.Forall₂ written entries ts ∧
          (putEntries width (entries.map fun e => (Scalar.str (key e), data e)) pen).StartsLine
            (text ++ ts.flatten)
  | [], _, text, pen, h => ⟨[], .nil, by simpa [putEntries] using h⟩
  | e :: es, hentries, text, pen, h => by
    obtain ⟨he, hes⟩ := List.forall_mem_cons.1 hentries
    obtain ⟨t, ht, hput⟩ := he text pen h
    obtain ⟨ts, hts, hputs⟩ := exists_written_putEntries width key data written hes hput
    refine ⟨t :: ts, .cons ht hts, ?_⟩
    rwa [List.flatten_cons, ← List.append_assoc, List.map_cons, putEntries]

/-- A value after its key ends the line. -/
theorem exists_written_putValue (hwidth : width + indentStep < lineWidth) (value : String)
    {text : List Char} (htext : pen.text.toList = text) (hgap : pen.afterGap = false) :
    ∃ t, ValueWritten width value t ∧
      (putNode width true (.str value) pen).StartsLine (text ++ t) := by
  obtain ⟨v, hv, hwrote, -⟩ := exists_written_putText hwidth false value.toList pen
  rw [htext, Pen.gap, hgap] at hwrote
  refine ⟨_, ⟨v, hv, rfl⟩, ?_⟩
  have hline := hwrote.startsLine
  rw [Data.str, putNode, putScalar]
  simpa using hline

theorem exists_written_entry (hwidth : width + indentStep < lineWidth) (e : String × String)
    {text : List Char} (h : pen.StartsLine text) : ∃ t, EntryWritten width e t ∧
      (putNode width true (.str e.2) (putKey width (.str e.1) pen)).StartsLine (text ++ t) := by
  obtain ⟨k, hk, htext, hgap, -⟩ := exists_written_putKey hwidth e.1 h
  obtain ⟨v, hv, hline⟩ := exists_written_putValue hwidth e.2 htext hgap
  refine ⟨_, ⟨k, v, hk, hv, rfl⟩, ?_⟩
  simpa using hline

theorem exists_written_part {key : String} (hkey : isSimpleKey key.toList) (part : Part)
    {text : List Char} (h : pen.StartsLine text) : ∃ p, part.Written p ∧
      (putNode 0 true part.data (putKey 0 (.str key) pen)).StartsLine
        (text ++ (keyForm key.toList ++ ':' :: p)) := by
  obtain ⟨k, hk, htext, hgap, hindent⟩ := exists_written_putKey
    (show 0 + indentStep < lineWidth by decide) key h
  have hform : k = keyForm key.toList ++ [':'] := by
    cases hk with
    | simple => rfl
    | complex hcomplex => simp [hkey] at hcomplex
  have hwrote : (putKey 0 (.str key) pen).Wrote (text ++ (keyForm key.toList ++ [':'])) :=
    ⟨by rw [htext, hform]; simp, hindent hkey, hgap⟩
  match part with
  | .text s =>
    obtain ⟨v, hv, hline⟩ := exists_written_putValue
      (show 0 + indentStep < lineWidth by decide) s hwrote.text hgap
    exact ⟨v, .text hv, by simpa [Part.data] using hline⟩
  | .group [] =>
    have hclose := wrote_indicator '\x7d' false
      ((putKey 0 (.str key) pen).indicator '\x7b' true false)
    rw [toList_indicator, hwrote.text, Pen.gap, hgap] at hclose
    refine ⟨_, .empty, ?_⟩
    rw [Part.data, Data.record, List.map_nil, List.map_nil, putNode, putEmpty]
    simpa using hclose.startsLine
  | .group (e :: es) =>
    have hentries : ∀ e' ∈ e :: es, ∀ text pen, Pen.StartsLine pen text →
        ∃ t, EntryWritten indentStep e' t ∧ (putNode indentStep true (.str e'.2)
          (putKey indentStep (.str e'.1) pen)).StartsLine (text ++ t) :=
      fun e' _ text pen hpen => exists_written_entry (by decide) e' hpen
    obtain ⟨ts, hts, hline⟩ := exists_written_putEntries indentStep
      (fun e : String × String => e.1) (fun e => .str e.2) (EntryWritten indentStep) hentries
      hwrote.startsLine
    refine ⟨_, .group hts, ?_⟩
    rw [Part.data, record_map, List.map_cons, putNode]
    simpa using hline

/-- A sheet is written entry by entry. -/
theorem exists_written_write {sheet : Sheet} (hkeys : ∀ e ∈ sheet, isSimpleKey e.1.toList)
    (hne : sheet ≠ []) : sheet.Written (write sheet.data).toList := by
  obtain ⟨e, es, rfl⟩ := List.exists_cons_of_ne_nil hne
  have hfresh : ({} : Pen).StartsLine [] := Pen.startsLine_of_column_zero rfl rfl rfl
  have hparts : ∀ e' ∈ e :: es, ∀ text pen, Pen.StartsLine pen text → ∃ t, PartWritten e' t ∧
      (putNode 0 true e'.2.data (putKey 0 (.str e'.1) pen)).StartsLine (text ++ t) :=
    fun e' he text pen hpen => by
      obtain ⟨p, hp, hline⟩ := exists_written_part (hkeys e' he) e'.2 hpen
      exact ⟨_, ⟨p, hp, rfl⟩, hline⟩
  obtain ⟨ts, hts, hline⟩ := exists_written_putEntries 0 (fun e : String × Part => e.1)
    (fun e => e.2.data) PartWritten hparts hfresh
  have hwrite : write (Sheet.data (e :: es)) = ((putEntries 0
      ((e :: es).map fun e => (Scalar.str e.1, e.2.data)) {}).indent 0).text := by
    rw [write, Sheet.data, record_map]
    rfl
  refine ⟨ts, hts, ?_⟩
  rw [hwrite, (hline 0).1, List.nil_append, List.replicate_zero, List.append_nil]

end StackCompiler.Yaml
