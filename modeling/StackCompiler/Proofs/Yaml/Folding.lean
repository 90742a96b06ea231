import StackCompiler.Proofs.Yaml.Cursor
import StackCompiler.Yaml.ScalarText

/-!
# Folded texts

`Folded width cs w` says that `w` is a way to write the text `cs` on lines that are indented by a
width: a blank between two words may become a line end, and a line end of the text is followed by an
empty line. Plain texts (`folded_putPlainStretches`) and texts between apostrophes
(`folded_putQuotedStretches`) are written so.
-/

namespace StackCompiler.Yaml

variable {cs ds w : List Char} {c : Char} {pen : Pen} {width n : Nat} {mayFold isFirst : Bool}

/-! ## Stretches -/

theorem hasPair_append {p q : Char → Bool} : ∀ {cs ds : List Char},
    hasPair p q (cs ++ ds) = false → hasPair p q ds = false ∧
      ∀ c ∈ cs.getLast?, p c → ∀ d ∈ ds.head?, q d = false
  | [], _, h => ⟨h, by simp⟩
  | [c], [], _ => ⟨rfl, by simp⟩
  | [c], d :: ds, h => by
    rw [List.singleton_append, hasPair, Bool.or_eq_false_iff, Bool.and_eq_false_iff] at h
    refine ⟨h.2, fun c' hc' hp d' hd' => ?_⟩
    obtain rfl : c = c' := Option.some.inj hc'
    obtain rfl : d = d' := Option.some.inj hd'
    exact h.1.resolve_left (by simp [hp])
  | c :: c' :: cs, ds, h => by
    rw [List.cons_append, List.cons_append, hasPair, Bool.or_eq_false_iff] at h
    rw [List.getLast?_cons_cons]
    exact hasPair_append h.2

def Stretch.chars : Stretch → List Char
  | blanks n => List.replicate n ' '
  | breaks cs | word cs => cs

/-- Stretches that are as long as they can be. -/
inductive Cut : List Stretch → Prop where
  | nil : Cut []
  | blanks {n : Nat} {rest : List Stretch} :
    (∀ c ∈ (rest.flatMap Stretch.chars).head?, isBlankChar c = false) → Cut rest →
      Cut (.blanks (n + 1) :: rest)
  | breaks {cs : List Char} {rest : List Stretch} : cs ≠ [] → (∀ c ∈ cs, isBreak c) →
    (∀ c ∈ (rest.flatMap Stretch.chars).head?, isBreak c = false) → Cut rest →
      Cut (.breaks cs :: rest)
  | word {cs : List Char} {rest : List Stretch} : cs ≠ [] →
    (∀ c ∈ cs, (isBlankChar c || isBreak c) = false) → Cut rest → Cut (.word cs :: rest)

theorem isBlankChar_iff : isBlankChar c ↔ c = ' ' := beq_iff_eq

theorem isBlankChar_of_isBreak (h : isBreak c) : isBlankChar c = false := by
  rw [← Bool.not_eq_true, isBlankChar_iff]
  rintro rfl
  exact absurd h (by decide)

/-- A character of another kind than the next one starts a stretch. -/
theorem Cut.next {sts : List Stretch} (h : Cut sts)
    (hnext : ∀ d ∈ (sts.flatMap Stretch.chars).head?,
      (isBlankChar c → isBlankChar d = false) ∧ (isBreak c → isBreak d = false)) :
    Cut (addChar.next c sts) := by
  unfold addChar.next
  split
  · exact .blanks (fun d hd => (hnext d hd).1 ‹_›) h
  · rename_i hother
    split
    · exact .breaks (List.cons_ne_nil _ _) (List.forall_mem_singleton.2 ‹_›)
        (fun d hd => (hnext d hd).2 ‹_›) h
    · rename_i hbreak
      exact .word (List.cons_ne_nil _ _) (List.forall_mem_singleton.2 (by simp [hother, hbreak])) h

theorem head?_flatMap_cons {st : Stretch} {sts : List Stretch} (hne : st.chars ≠ []) :
    ((st :: sts).flatMap Stretch.chars).head? = st.chars.head? := by
  obtain ⟨c, cs, heq⟩ := List.exists_cons_of_ne_nil hne
  rw [List.flatMap_cons, heq]
  rfl

theorem Cut.addChar {sts : List Stretch} (h : Cut sts) : Cut (addChar c sts) := by
  cases h with
  | nil => exact Cut.nil.next fun d hd => by cases hd
  | @blanks n rest hhead hrest =>
    rw [Yaml.addChar]
    split
    · exact .blanks hhead hrest
    · rename_i hother
      refine (Cut.blanks hhead hrest).next fun d hd => ⟨fun hblank => absurd hblank hother, ?_⟩
      rw [@head?_flatMap_cons (.blanks (n + 1)) rest (List.cons_ne_nil _ _)] at hd
      rw [List.eq_of_mem_replicate (List.mem_of_head? hd)]
      exact fun _ => rfl
  | @breaks cs rest hne hcs hhead hrest =>
    rw [Yaml.addChar]
    split
    · exact .breaks (List.cons_ne_nil _ _) (List.forall_mem_cons.2 ⟨‹_›, hcs⟩) hhead hrest
    · rename_i hother
      refine (Cut.breaks hne hcs hhead hrest).next fun d hd =>
        ⟨fun _ => ?_, fun hbreak => absurd hbreak hother⟩
      rw [@head?_flatMap_cons (.breaks cs) rest hne] at hd
      exact isBlankChar_of_isBreak (hcs d (List.mem_of_head? hd))
  | @word cs rest hne hcs hrest =>
    rw [Yaml.addChar]
    split
    · refine (Cut.word hne hcs hrest).next fun d hd => ?_
      rw [@head?_flatMap_cons (.word cs) rest hne] at hd
      obtain ⟨hblank, hbreak⟩ := Bool.or_eq_false_iff.1 (hcs d (List.mem_of_head? hd))
      exact ⟨fun _ => hblank, fun _ => hbreak⟩
    · rename_i hother
      exact .word (List.cons_ne_nil _ _)
        (List.forall_mem_cons.2 ⟨Bool.eq_false_iff.2 hother, hcs⟩) hrest

theorem cut_stretches : ∀ cs : List Char, Cut (stretches cs)
  | [] => .nil
  | _ :: cs => (cut_stretches cs).addChar

theorem flatMap_next (sts : List Stretch) :
    (addChar.next c sts).flatMap Stretch.chars = c :: sts.flatMap Stretch.chars := by
  rw [addChar.next, List.flatMap_cons]
  split
  · rename_i hblank
    rw [isBlankChar_iff.1 hblank]
    rfl
  · split <;> rfl

theorem flatMap_addChar (sts : List Stretch) :
    (addChar c sts).flatMap Stretch.chars = c :: sts.flatMap Stretch.chars := by
  unfold addChar
  split
  · split
    · rename_i hblank
      rw [isBlankChar_iff.1 hblank]
      rfl
    · exact flatMap_next _
  · split
    · rfl
    · exact flatMap_next _
  · split
    · exact flatMap_next _
    · rfl
  · exact flatMap_next _

/-- The stretches make up the text. -/
theorem flatMap_stretches : ∀ cs : List Char, (stretches cs).flatMap Stretch.chars = cs
  | [] => rfl
  | c :: cs => (flatMap_addChar _).trans (congrArg (c :: ·) (flatMap_stretches cs))

/-! ## Folding -/

/-- What may stand between two words: blanks, or a line end and empty lines after it. -/
inductive Gap where
  | blanks (count : Nat)
  | lines (empty : Nat)

namespace Gap

/-- The characters that a gap stands for. -/
def text : Gap → List Char
  | blanks n => List.replicate (n + 1) ' '
  | lines n => foldedBreak '\n' (List.replicate n '\n')

/-- A gap as it is written. -/
def written (width : Nat) : Gap → List Char
  | blanks n => List.replicate (n + 1) ' '
  | lines n => List.replicate (n + 1) '\n' ++ List.replicate width ' '

end Gap

/-- A text that does not begin with a gap. -/
def StartsWord (cs : List Char) : Prop := ∀ c ∈ cs.head?, isGap c = false

inductive Folded (width : Nat) : List Char → List Char → Prop where
  | nil : Folded width [] []
  | char {c : Char} {cs w : List Char} : isGap c = false → Folded width cs w →
    Folded width (c :: cs) (c :: w)
  | gap {cs w : List Char} (g : Gap) : StartsWord w → Folded width cs w →
    Folded width (g.text ++ cs) (g.written width ++ w)

theorem Gap.exists_text (g : Gap) : ∃ c cs, g.text = c :: cs ∧ isGap c := by
  cases g with
  | blanks n => exact ⟨' ', _, rfl, by decide⟩
  | lines n =>
    cases n with
    | zero => exact ⟨' ', _, rfl, by decide⟩
    | succ n => exact ⟨'\n', _, rfl, by decide⟩

theorem Gap.exists_written (g : Gap) (width : Nat) :
    ∃ c cs, g.written width = c :: cs ∧ isGap c := by
  cases g with
  | blanks n => exact ⟨' ', _, rfl, by decide⟩
  | lines n => exact ⟨'\n', _, rfl, by decide⟩

theorem Folded.startsWord (h : Folded width cs w) (hcs : StartsWord cs) : StartsWord w := by
  cases h with
  | nil => exact hcs
  | char hc => exact fun d hd => Option.some.inj hd ▸ hc
  | gap g =>
    obtain ⟨c, cs, heq, hgap⟩ := g.exists_text
    rw [heq] at hcs
    exact absurd (hcs c rfl) (by simp [hgap])

theorem Folded.word (hcs : ∀ c ∈ cs, isGap c = false) (h : Folded width ds w) :
    Folded width (cs ++ ds) (cs ++ w) := by
  induction cs with
  | nil => exact h
  | cons c cs ih =>
    obtain ⟨hc, hcs⟩ := List.forall_mem_cons.1 hcs
    exact .char hc (ih hcs)

/-! ## The pen -/

namespace Pen

theorem toList_put (cs : List Char) (pen : Pen) :
    (pen.put cs).text.toList = pen.text.toList ++ cs := by
  have hpush : ∀ (cs : List Char) (s : String),
      (cs.foldl String.push s).toList = s.toList ++ cs := by
    intro cs
    induction cs with
    | nil => simp
    | cons c cs ih => simp [ih]
  exact hpush cs pen.text

/-- A pen that can start a line, with the text that is there once it has started one. -/
def StartsLine (pen : Pen) (text : List Char) : Prop :=
  ∀ width, (pen.indent width).text.toList = text ++ List.replicate width ' ' ∧
    (pen.indent width).afterGap = true

theorem startsLine_of_column_zero {pen : Pen} (hcolumn : pen.column = 0) (hgap : pen.afterGap)
    (hindent : pen.atIndent) : pen.StartsLine pen.text.toList := by
  rintro (_ | n)
  · simp [indent, hcolumn, hgap, hindent]
  · simp [indent, hcolumn, hgap, hindent, toList_put]

theorem startsLine_newline (pen : Pen) : pen.newline.StartsLine (pen.text.toList ++ ['\n']) := by
  have h : pen.newline.StartsLine pen.newline.text.toList := startsLine_of_column_zero rfl rfl rfl
  rwa [newline, String.toList_push] at h

/-- Something that was written on a line ends it. -/
theorem indent_eq {pen : Pen} (h : pen.atIndent = false ∨ width < pen.column) :
    pen.indent width = pen.newline.indent width := by
  have hnewline : (!pen.atIndent || width < pen.column || (pen.column == width && !pen.afterGap)) =
      true := by
    rcases h with h | h <;> simp [h]
  simp [indent, hnewline, newline]

theorem toList_indent {pen : Pen} (h : pen.atIndent = false ∨ width < pen.column) :
    (pen.indent width).text.toList = pen.text.toList ++ '\n' :: List.replicate width ' ' := by
  rw [indent_eq h, (startsLine_newline pen width).1, List.append_assoc]
  rfl

end Pen

/-! ## Writing folded texts -/

/-- Blanks are written as a gap that stands for them. -/
theorem exists_gap_putBlanks (hwidth : width ≤ lineWidth) (n : Nat) (mayFold : Bool) (pen : Pen) :
    ∃ g : Gap, g.text = List.replicate (n + 1) ' ' ∧
      (putBlanks width (n + 1) mayFold pen).text.toList = pen.text.toList ++ g.written width ∧
        (mayFold = false → g.written width = List.replicate (n + 1) ' ') := by
  unfold putBlanks
  split
  · rename_i h
    obtain rfl : n = 0 := by omega
    exact ⟨.lines 0, rfl, Pen.toList_indent (.inr (hwidth.trans_lt h.2.1)),
      fun hnone => absurd h.2.2 (by simp [hnone])⟩
  · exact ⟨.blanks n, rfl, Pen.toList_put _ _, fun _ => rfl⟩

theorem isGap_eq_false (h : isPlainAscii c) (hblank : isBlankChar c = false) : isGap c = false :=
  isGap_of_isPlainAscii h fun heq => absurd (isBlankChar_iff.2 heq) (by simp [hblank])

/-- Plain texts are folded at blanks. -/
theorem folded_putPlainStretches (hwidth : width ≤ lineWidth) (mayFold : Bool)
    {sts : List Stretch} (hcut : Cut sts) (hchars : ∀ c ∈ sts.flatMap Stretch.chars, isPlainAscii c)
    (pen : Pen) : ∃ w, Folded width (sts.flatMap Stretch.chars) w ∧
      (putPlainStretches width mayFold sts pen).text.toList = pen.text.toList ++ w ∧
      (mayFold = false → w = sts.flatMap Stretch.chars) := by
  induction hcut generalizing pen with
  | nil => exact ⟨[], .nil, (List.append_nil _).symm, fun _ => rfl⟩
  | @blanks n rest hhead _ ih =>
    rw [List.flatMap_cons] at hchars ⊢
    have hrest := (List.forall_mem_append.1 hchars).2
    obtain ⟨w, hw, htext, hflat⟩ := ih hrest (putBlanks width (n + 1) mayFold pen)
    have hstarts := hw.startsWord fun c hc =>
      isGap_eq_false (hrest c (List.mem_of_head? hc)) (hhead c hc)
    obtain ⟨g, hg, hgap, hsame⟩ := exists_gap_putBlanks hwidth n mayFold pen
    have hfolded := Folded.gap g hstarts hw
    rw [hg] at hfolded
    refine ⟨g.written width ++ w, hfolded, ?_, fun hnone => ?_⟩
    · rw [putPlainStretches, htext, hgap, List.append_assoc]
    · rw [hsame hnone, hflat hnone]
      rfl
  | breaks hne hbreaks _ _ _ =>
    obtain ⟨c, cs, rfl⟩ := List.exists_cons_of_ne_nil hne
    have hplain := isBreak_of_isPlainAscii (hchars c (List.mem_cons_self ..))
    exact absurd (hbreaks c (List.mem_cons_self ..)) (by simp [hplain])
  | @word cs rest _ hword _ ih =>
    rw [List.flatMap_cons] at hchars ⊢
    obtain ⟨hcs, hrest⟩ := List.forall_mem_append.1 hchars
    obtain ⟨w, hw, htext, hflat⟩ := ih hrest (pen.put cs)
    refine ⟨cs ++ w, hw.word fun c hc => ?_, ?_, fun hnone => ?_⟩
    · exact isGap_eq_false (hcs c hc) (Bool.or_eq_false_iff.1 (hword c hc)).1
    · rw [putPlainStretches, htext, Pen.toList_put, List.append_assoc]
    · rw [hflat hnone]
      rfl

/-- A text with its apostrophes doubled. -/
def doubled (cs : List Char) : List Char :=
  cs.flatMap fun c => if c = '\'' then ['\'', '\''] else [c]

theorem doubled_append : doubled (cs ++ ds) = doubled cs ++ doubled ds := List.flatMap_append

theorem doubled_eq_self (h : ∀ c ∈ cs, c ≠ '\'') : doubled cs = cs := by
  induction cs with
  | nil => rfl
  | cons c cs ih =>
    obtain ⟨hc, hcs⟩ := List.forall_mem_cons.1 h
    rw [doubled, List.flatMap_cons, if_neg hc]
    exact congrArg (c :: ·) (ih hcs)

theorem startsLine_putBreaks (n : Nat) (pen : Pen) :
    (putBreaks (List.replicate (n + 1) '\n') pen).StartsLine
      (pen.text.toList ++ List.replicate (n + 2) '\n') := by
  have hfold : ∀ (n : Nat) (pen : Pen), ((List.replicate (n + 1) '\n').foldl (fun pen c =>
      if c = '\n' then pen.newline
      else { pen.newline with text := pen.text.push c }) pen).StartsLine
        (pen.text.toList ++ List.replicate (n + 1) '\n') := by
    intro n
    induction n with
    | zero => exact Pen.startsLine_newline
    | succ n ih =>
      intro pen
      have h := ih pen.newline
      rwa [Pen.newline, String.toList_push, List.append_assoc, List.singleton_append,
        ← List.replicate_succ] at h
  have h := hfold n pen.newline
  rwa [Pen.newline, String.toList_push, List.append_assoc, List.singleton_append,
    ← List.replicate_succ] at h

theorem isGap_of_isWrittenChar (h : isWrittenChar c) (hblank : isBlankChar c = false)
    (hbreak : isBreak c = false) : isGap c = false :=
  isGap_eq_false (isPlainAscii_of_isWrittenChar h fun heq => by simp [heq, isBreak] at hbreak)
    hblank

theorem eq_newline (h : isWrittenChar c) (hbreak : isBreak c) : c = '\n' := by
  by_contra hne
  have hplain := isBreak_of_isPlainAscii (isPlainAscii_of_isWrittenChar h hne)
  exact absurd hbreak (by simp [hplain])

theorem doubled_written (g : Gap) :
    doubled (g.written width ++ w) = g.written width ++ doubled w := by
  rw [doubled_append, doubled_eq_self]
  cases g with
  | blanks n => exact fun c hc => by simp [List.eq_of_mem_replicate hc]
  | lines n =>
    intro c hc
    rcases List.mem_append.1 hc with hc | hc
    · simp [List.eq_of_mem_replicate hc]
    · simp [List.eq_of_mem_replicate hc]

/-- Texts between apostrophes are folded at blanks and at their line ends. -/
theorem folded_putQuotedStretches (hwidth : width ≤ lineWidth) (mayFold : Bool)
    {sts : List Stretch} (hcut : Cut sts)
    (hchars : ∀ c ∈ sts.flatMap Stretch.chars, isWrittenChar c)
    (hbefore : hasPair isBlankChar isBreak (sts.flatMap Stretch.chars) = false)
    (hafter : hasPair isBreak isBlankChar (sts.flatMap Stretch.chars) = false) (isFirst : Bool)
    (pen : Pen) : ∃ w, Folded width (sts.flatMap Stretch.chars) w ∧
      (putQuotedStretches width mayFold isFirst sts pen).text.toList =
        pen.text.toList ++ doubled w ∧
      (mayFold = false → (∀ c ∈ sts.flatMap Stretch.chars, isBreak c = false) →
        w = sts.flatMap Stretch.chars) := by
  induction hcut generalizing isFirst pen with
  | nil => exact ⟨[], .nil, (List.append_nil _).symm, fun _ _ => rfl⟩
  | @blanks n rest hhead _ ih =>
    rw [List.flatMap_cons] at hchars hbefore hafter ⊢
    have hrest := (List.forall_mem_append.1 hchars).2
    obtain ⟨hbefore, hbreak⟩ := hasPair_append hbefore
    obtain ⟨w, hw, htext, hflat⟩ := ih hrest hbefore (hasPair_append hafter).1 false
      (putBlanks width (n + 1) (mayFold && !isFirst && !rest.isEmpty) pen)
    have hstarts := hw.startsWord fun c hc => isGap_of_isWrittenChar
      (hrest c (List.mem_of_head? hc)) (hhead c hc)
        (hbreak ' ' (by rw [Stretch.chars, List.getLast?_replicate]; rfl) rfl c hc)
    obtain ⟨g, hg, hgap, hsame⟩ := exists_gap_putBlanks hwidth n
      (mayFold && !isFirst && !rest.isEmpty) pen
    have hfolded := Folded.gap g hstarts hw
    rw [hg] at hfolded
    refine ⟨g.written width ++ w, hfolded, ?_, fun hnone hline => ?_⟩
    · rw [putQuotedStretches, htext, hgap, List.append_assoc, doubled_written]
    · rw [hsame (by simp [hnone]), hflat hnone (List.forall_mem_append.1 hline).2]
      rfl
  | @breaks cs rest hne hbreaks hhead _ ih =>
    rw [List.flatMap_cons] at hchars hbefore hafter ⊢
    obtain ⟨hcs, hrest⟩ := List.forall_mem_append.1 hchars
    obtain ⟨n, rfl⟩ : ∃ n, cs = List.replicate (n + 1) '\n' := by
      refine ⟨cs.length - 1, List.eq_replicate_iff.2 ⟨?_, fun c hc => ?_⟩⟩
      · have := List.length_pos_iff.2 hne
        omega
      · exact eq_newline (hcs c hc) (hbreaks c hc)
    obtain ⟨hafter, hblank⟩ := hasPair_append hafter
    obtain ⟨w, hw, htext, hflat⟩ := ih hrest (hasPair_append hbefore).1 hafter false
      ((putBreaks (List.replicate (n + 1) '\n') pen).indent width)
    have hstarts := hw.startsWord fun c hc => isGap_of_isWrittenChar
      (hrest c (List.mem_of_head? hc))
        (hblank '\n' (by rw [Stretch.chars, List.getLast?_replicate]; rfl) rfl c hc) (hhead c hc)
    refine ⟨(Gap.lines (n + 1)).written width ++ w, .gap (.lines (n + 1)) hstarts hw, ?_,
      fun _ hline => ?_⟩
    · rw [putQuotedStretches, htext, (startsLine_putBreaks n pen width).1, doubled_written,
        List.append_assoc, List.append_assoc, Gap.written, List.append_assoc]
    · exact absurd (hline '\n' (by simp [Stretch.chars])) (by decide)
  | @word cs rest _ hword _ ih =>
    rw [List.flatMap_cons] at hchars hbefore hafter ⊢
    obtain ⟨hcs, hrest⟩ := List.forall_mem_append.1 hchars
    obtain ⟨w, hw, htext, hflat⟩ := ih hrest (hasPair_append hbefore).1 (hasPair_append hafter).1
      false (pen.put (doubled cs))
    refine ⟨cs ++ w, hw.word fun c hc => ?_, ?_, fun hnone hline => ?_⟩
    · obtain ⟨hblank, hbreak⟩ := Bool.or_eq_false_iff.1 (hword c hc)
      exact isGap_of_isWrittenChar (hcs c hc) hblank hbreak
    · rw [doubled_append, ← List.append_assoc, ← Pen.toList_put]
      exact htext
    · rw [hflat hnone (List.forall_mem_append.1 hline).2]
      rfl

end StackCompiler.Yaml
