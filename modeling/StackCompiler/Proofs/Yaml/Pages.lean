import StackCompiler.Proofs.Yaml.Writing
import StackCompiler.Yaml.Lexer

/-!
# The written form of pages

A `Page` is what can stand after a key: a text, a truth value, a list, or a group of entries whose
values are pages again. Neither lists nor groups are empty, and the items of lists are no lists.
`Page.WrittenAt width page t` says that `t` is a way to write a page where the keys around it are
indented by `width`, from the end of its key on. Entries are written one after the other
(`Entries.exists_writtenAt`), and so is a document of entries (`Entries.writtenAt_write`).
-/

namespace StackCompiler.Yaml

/-- A scalar that is a text or a truth value. -/
inductive Leaf where
  | text (s : String)
  | flag (b : Bool)

namespace Leaf

def data : Leaf → Data
  | text s => .str s
  | flag b => .bool b

/-- The characters that are written in a style. -/
def chars : Leaf → List Char
  | text s => s.toList
  | flag b => (plainForm (.bool b)).toList

def style : Leaf → Style
  | text s => styleOf false s.toList
  | flag _ => .plain

/-- A leaf as it is written after a key or a dash. -/
def WrittenAt (width : Nat) (l : Leaf) (t : List Char) : Prop :=
  ∃ w, Written (width + indentStep) l.chars l.style w ∧ t = ' ' :: (w ++ ['\n'])

end Leaf

mutual

/-- What stands after a key. -/
inductive Page where
  | leaf (l : Leaf)
  | items (xs : Items)
  | group (es : Entries)

inductive Items where
  | one (x : Item)
  | cons (x : Item) (xs : Items)

inductive Item where
  | leaf (l : Leaf)
  | group (es : Entries)

inductive Entries where
  | one (key : String) (value : Page)
  | cons (key : String) (value : Page) (es : Entries)

end

/-! ## Data -/

mutual

def Page.data : Page → Data
  | .leaf l => l.data
  | .items xs => .list xs.data
  | .group es => .map es.data

def Items.data : Items → List Data
  | .one x => [x.data]
  | .cons x xs => x.data :: xs.data

def Item.data : Item → Data
  | .leaf l => l.data
  | .group es => .map es.data

def Entries.data : Entries → List (Scalar × Data)
  | .one key value => [(.str key, value.data)]
  | .cons key value es => (.str key, value.data) :: es.data

end

mutual

/-- How many collections are inside one another. -/
def Page.levels : Page → Nat
  | .leaf _ => 0
  | .items xs => xs.levels + 1
  | .group es => es.levels + 1

def Items.levels : Items → Nat
  | .one x => x.levels
  | .cons x xs => max x.levels xs.levels

def Item.levels : Item → Nat
  | .leaf _ => 0
  | .group es => es.levels + 1

def Entries.levels : Entries → Nat
  | .one _ value => value.levels
  | .cons _ value es => max value.levels es.levels

end

/-- Collections inside one another are not indented as far as the end of a line. -/
def HasRoom (width levels : Nat) : Prop := width + indentStep * (levels + 1) < lineWidth

namespace HasRoom

variable {width levels inner : Nat}

theorem mono (h : HasRoom width levels) (hle : inner ≤ levels) : HasRoom width inner := by
  unfold HasRoom indentStep at *
  omega

theorem succ (h : HasRoom width (levels + 1)) : HasRoom (width + indentStep) levels := by
  unfold HasRoom indentStep at *
  omega

theorem lt (h : HasRoom width levels) : width + indentStep < lineWidth := h.mono (Nat.zero_le _)

end HasRoom

/-! ## Keys -/

/-- A key that stays on its line and ends before it is given up. -/
@[mk_iff]
structure IsShortKey (key : String) : Prop where
  simple : isSimpleKey key.toList
  length_le : (keyForm key.toList).length ≤ Lexer.maxKeyLength

mutual

/-- All keys are short. -/
def Page.Fits : Page → Prop
  | .leaf _ => True
  | .items xs => xs.Fits
  | .group es => es.Fits

def Items.Fits : Items → Prop
  | .one x => x.Fits
  | .cons x xs => x.Fits ∧ xs.Fits

def Item.Fits : Item → Prop
  | .leaf _ => True
  | .group es => es.Fits

def Entries.Fits : Entries → Prop
  | .one key value => IsShortKey key ∧ value.Fits
  | .cons key value es => IsShortKey key ∧ value.Fits ∧ es.Fits

end

/-! ## Written pages -/

mutual

/-- A page as it is written from the end of its key on. -/
def Page.WrittenAt (width : Nat) : Page → List Char → Prop
  | .leaf l, t => l.WrittenAt width t
  | .items xs, t => ∃ t', xs.WrittenAt width t' ∧ t = '\n' :: (List.replicate width ' ' ++ t')
  | .group es, t => ∃ t', es.WrittenAt (width + indentStep) t' ∧
    t = '\n' :: (List.replicate (width + indentStep) ' ' ++ t')

/-- The items of a list, from the first dash on. -/
def Items.WrittenAt (width : Nat) : Items → List Char → Prop
  | .one x, t => ∃ t', x.WrittenAt width t' ∧ t = '-' :: t'
  | .cons x xs, t => ∃ t' rest, x.WrittenAt width t' ∧ xs.WrittenAt width rest ∧
    t = '-' :: (t' ++ (List.replicate width ' ' ++ rest))

/-- An item as it is written after its dash. -/
def Item.WrittenAt (width : Nat) : Item → List Char → Prop
  | .leaf l, t => l.WrittenAt width t
  | .group es, t => ∃ t', es.WrittenAt (width + indentStep) t' ∧ t = ' ' :: t'

/-- Entries, from the first key on. -/
def Entries.WrittenAt (width : Nat) : Entries → List Char → Prop
  | .one key value, t => ∃ t', value.WrittenAt width t' ∧ t = keyForm key.toList ++ ':' :: t'
  | .cons key value es, t => ∃ t' rest, value.WrittenAt width t' ∧ es.WrittenAt width rest ∧
    t = keyForm key.toList ++ ':' :: (t' ++ (List.replicate width ' ' ++ rest))

end

/-! ## Pens at a column -/

namespace Pen

variable {pen : Pen} {width : Nat} {text : List Char}

/-- A pen that can start an entry or an item at a column, with the text before that. -/
structure At (pen : Pen) (width : Nat) (text : List Char) : Prop where
  text : (pen.indent width).text.toList = text
  column : (pen.indent width).column = width
  afterGap : (pen.indent width).afterGap = true
  atIndent : (pen.indent width).atIndent = true

/-- A pen that has come to the end of a line, with the text up to there. -/
def EndsLine (pen : Pen) (text : List Char) : Prop :=
  ∀ width, pen.At width (text ++ List.replicate width ' ')

/-- On a line with nothing but blanks and indicators, blanks lead to a column. -/
theorem at_of_column_lt (hcolumn : pen.column < width) (hindent : pen.atIndent) :
    pen.At width (pen.text.toList ++ List.replicate (width - pen.column) ' ') := by
  have hput : pen.indent width =
      { pen.put (List.replicate (width - pen.column) ' ') with afterGap := true } := by
    have hstay : ¬(!pen.atIndent || width < pen.column ||
        (pen.column == width && !pen.afterGap)) = true := by
      have hne : (pen.column == width) = false := beq_eq_false_iff_ne.2 (by omega)
      simp [hindent, hne]
      omega
    rw [indent, if_neg hstay]
    exact if_pos hcolumn
  refine ⟨?_, ?_, ?_, ?_⟩
  · rw [hput]
    exact toList_put _ _
  · rw [hput]
    change pen.column + (List.replicate (width - pen.column) ' ').length = width
    rw [List.length_replicate]
    omega
  · rw [hput]
  · rw [hput]
    exact hindent

theorem endsLine_of_column_zero (hcolumn : pen.column = 0) (hgap : pen.afterGap)
    (hindent : pen.atIndent) : pen.EndsLine pen.text.toList := by
  rintro (_ | n)
  · have hstay : pen.indent 0 = pen := by simp [indent, hcolumn, hgap, hindent]
    refine ⟨?_, ?_, ?_, ?_⟩ <;> rw [hstay]
    · rw [List.replicate_zero, List.append_nil]
    · exact hcolumn
    · exact hgap
    · exact hindent
  · have h := at_of_column_lt (hcolumn ▸ Nat.succ_pos n) hindent
    rwa [hcolumn, Nat.sub_zero] at h

theorem Wrote.endsLine (h : pen.Wrote text) : pen.EndsLine (text ++ ['\n']) := by
  intro width
  have hline : pen.newline.EndsLine pen.newline.text.toList := endsLine_of_column_zero rfl rfl rfl
  obtain ⟨htext, hcolumn, hgap, hindent⟩ := hline width
  rw [← indent_eq (.inl h.atIndent)] at htext hcolumn hgap hindent
  rw [newline, String.toList_push, h.text] at htext
  exact ⟨htext, hcolumn, hgap, hindent⟩

/-- A pen that has just written the dash of an item at a column. -/
structure AfterDash (pen : Pen) (width : Nat) (text : List Char) : Prop where
  text : pen.text.toList = text
  column : pen.column = width + 1
  afterGap : pen.afterGap = false
  atIndent : pen.atIndent = true

theorem At.dash (h : pen.At width text) :
    ((pen.indent width).indicator '-' true true).AfterDash width (text ++ ['-']) := by
  obtain ⟨htext, hcolumn, hgap, hindent⟩ := h
  refine ⟨?_, ?_, rfl, ?_⟩
  · rw [toList_indicator, htext, gap, hgap]
    simp
  · simp [indicator, put, hcolumn, hgap]
  · exact (Bool.and_true _).trans hindent

/-- A group may start on the line of its dash. -/
theorem AfterDash.at (h : pen.AfterDash width text) :
    pen.At (width + indentStep) (text ++ [' ']) := by
  have hlt : pen.column < width + indentStep := by
    rw [h.column]
    exact Nat.lt_succ_self _
  have hat := at_of_column_lt hlt h.atIndent
  have hone : width + indentStep - pen.column = 1 := by
    rw [h.column, indentStep]
    omega
  rwa [hone, h.text] at hat

end Pen

/-! ## Writing -/

variable {pen : Pen} {width : Nat} {text : List Char} {inMap : Bool} {key : String}

theorem isPlainText_flag (b : Bool) : IsPlainText (Leaf.flag b).chars := by
  cases b <;> exact ⟨by decide, List.all_eq_true.1 rfl, by decide, by decide, by decide⟩

theorem Leaf.exists_writtenAt (hwidth : width + indentStep < lineWidth) (l : Leaf)
    (htext : pen.text.toList = text) (hgap : pen.afterGap = false) :
    ∃ t, l.WrittenAt width t ∧ (putNode width inMap l.data pen).EndsLine (text ++ t) := by
  obtain ⟨w, hw, hwrote⟩ : ∃ w, Written (width + indentStep) l.chars l.style w ∧
      (putNode width inMap l.data pen).Wrote (pen.text.toList ++ pen.gap ++ w) := by
    cases l with
    | text s =>
      obtain ⟨w, hw, hwrote, -⟩ := exists_written_putText hwidth false s.toList pen
      exact ⟨w, hw, hwrote⟩
    | flag b =>
      obtain ⟨w, hw, hwrote, -⟩ := exists_written_putPlain hwidth.le true (isPlainText_flag b) pen
      exact ⟨w, .plain (isPlainText_flag b) hw, hwrote⟩
  refine ⟨_, ⟨w, hw, rfl⟩, ?_⟩
  have hline := hwrote.endsLine
  rw [htext, Pen.gap, hgap] at hline
  simpa using hline

theorem wrote_putKey (hwidth : width + indentStep < lineWidth) (hsimple : isSimpleKey key.toList)
    (h : pen.At width text) :
    (putKey width (.str key) pen).Wrote (text ++ (keyForm key.toList ++ [':'])) := by
  obtain ⟨w, -, hwrote, hform⟩ := exists_written_putText hwidth true key.toList (pen.indent width)
  rw [hform rfl (isBreak_of_isSimpleKey hsimple), h.text, Pen.gap, h.afterGap] at hwrote
  have hcolon := wrote_indicator ':' false
    (putText (width + indentStep) true key.toList (pen.indent width))
  have hput : putKey width (.str key) pen =
      (putText (width + indentStep) true key.toList (pen.indent width)).indicator ':' false false :=
    if_pos hsimple
  rw [hwrote.text] at hcolon
  rw [hput]
  simpa using hcolon

theorem Items.data_ne_nil (xs : Items) : xs.data ≠ [] := by
  cases xs <;> exact List.cons_ne_nil _ _

theorem Entries.data_ne_nil (es : Entries) : es.data ≠ [] := by
  cases es <;> exact List.cons_ne_nil _ _

/-- A list that is the value of an entry is not indented further. -/
theorem putNode_items (xs : Items) (hindent : pen.atIndent = false) :
    putNode width true (.list xs.data) pen = putItems width xs.data pen := by
  obtain ⟨x, rest, hxs⟩ := List.exists_cons_of_ne_nil xs.data_ne_nil
  rw [hxs, putNode, hindent]
  rfl

theorem putNode_group (es : Entries) :
    putNode width inMap (.map es.data) pen = putEntries (width + indentStep) es.data pen := by
  obtain ⟨e, rest, hes⟩ := List.exists_cons_of_ne_nil es.data_ne_nil
  rw [hes, putNode]

-- By induction on pages. A page starts where the pen has written a key, items and entries start where
-- the pen can go to their column, and each of them leaves the pen at the end of a line.
mutual

theorem Page.exists_writtenAt (page : Page) {width : Nat} {pen : Pen} {text : List Char}
    (hroom : HasRoom width page.levels)
    (hfits : page.Fits) (h : pen.Wrote text) :
    ∃ t, page.WrittenAt width t ∧ (putNode width true page.data pen).EndsLine (text ++ t) := by
  match page with
  | .leaf l => exact l.exists_writtenAt hroom.lt h.text h.afterGap
  | .items xs =>
    obtain ⟨t, ht, hline⟩ := xs.exists_writtenAt (hroom.mono (Nat.le_succ _)) hfits
      (h.endsLine width)
    refine ⟨_, ⟨t, ht, rfl⟩, ?_⟩
    rw [Page.data, putNode_items xs h.atIndent]
    simpa using hline
  | .group es =>
    obtain ⟨t, ht, hline⟩ := es.exists_writtenAt hroom.succ hfits (h.endsLine _)
    refine ⟨_, ⟨t, ht, rfl⟩, ?_⟩
    rw [Page.data, putNode_group]
    simpa using hline

theorem Items.exists_writtenAt (xs : Items) {width : Nat} {pen : Pen} {text : List Char}
    (hroom : HasRoom width xs.levels)
    (hfits : xs.Fits) (h : pen.At width text) :
    ∃ t, xs.WrittenAt width t ∧ (putItems width xs.data pen).EndsLine (text ++ t) := by
  match xs with
  | .one x =>
    obtain ⟨t, ht, hline⟩ := x.exists_writtenAt hroom hfits h.dash
    refine ⟨_, ⟨t, ht, rfl⟩, ?_⟩
    rw [Items.data, putItems, putItems]
    simpa using hline
  | .cons x xs =>
    obtain ⟨t, ht, hline⟩ := x.exists_writtenAt (hroom.mono (Nat.le_max_left _ _)) hfits.1 h.dash
    obtain ⟨rest, hrest, hlines⟩ := xs.exists_writtenAt (hroom.mono (Nat.le_max_right _ _)) hfits.2
      (hline width)
    refine ⟨_, ⟨t, rest, ht, hrest, rfl⟩, ?_⟩
    rw [Items.data, putItems]
    simpa using hlines

theorem Item.exists_writtenAt (x : Item) {width : Nat} {pen : Pen} {text : List Char}
    (hroom : HasRoom width x.levels)
    (hfits : x.Fits) (h : pen.AfterDash width text) :
    ∃ t, x.WrittenAt width t ∧ (putNode width false x.data pen).EndsLine (text ++ t) := by
  match x with
  | .leaf l => exact l.exists_writtenAt hroom.lt h.text h.afterGap
  | .group es =>
    obtain ⟨t, ht, hline⟩ := es.exists_writtenAt hroom.succ hfits h.at
    refine ⟨_, ⟨t, ht, rfl⟩, ?_⟩
    rw [Item.data, putNode_group]
    simpa using hline

theorem Entries.exists_writtenAt (es : Entries) {width : Nat} {pen : Pen} {text : List Char}
    (hroom : HasRoom width es.levels)
    (hfits : es.Fits) (h : pen.At width text) :
    ∃ t, es.WrittenAt width t ∧ (putEntries width es.data pen).EndsLine (text ++ t) := by
  match es with
  | .one key value =>
    obtain ⟨t, ht, hline⟩ := value.exists_writtenAt hroom hfits.2
      (wrote_putKey hroom.lt hfits.1.simple h)
    refine ⟨_, ⟨t, ht, rfl⟩, ?_⟩
    rw [Entries.data, putEntries, putEntries]
    simpa using hline
  | .cons key value es =>
    obtain ⟨hkey, hvalue, hes⟩ := hfits
    obtain ⟨t, ht, hline⟩ := value.exists_writtenAt (hroom.mono (Nat.le_max_left _ _)) hvalue
      (wrote_putKey hroom.lt hkey.simple h)
    obtain ⟨rest, hrest, hlines⟩ := es.exists_writtenAt (hroom.mono (Nat.le_max_right _ _)) hes
      (hline width)
    refine ⟨_, ⟨t, rest, ht, hrest, rfl⟩, ?_⟩
    rw [Entries.data, putEntries]
    simpa using hlines

end

/-- A document of entries is written entry by entry. -/
theorem Entries.writtenAt_write (es : Entries) (hroom : HasRoom 0 es.levels)
    (hfits : es.Fits) :
    es.WrittenAt 0 (write (.map es.data)).toList := by
  have hfresh : ({} : Pen).EndsLine [] := Pen.endsLine_of_column_zero rfl rfl rfl
  obtain ⟨t, ht, hline⟩ := es.exists_writtenAt hroom hfits (hfresh 0)
  have hwrite : write (.map es.data) = ((putEntries 0 es.data {}).indent 0).text := by
    obtain ⟨e, rest, hes⟩ := List.exists_cons_of_ne_nil es.data_ne_nil
    rw [write, hes]
    rfl
  have htext := (hline 0).text
  rw [← hwrite] at htext
  rw [htext]
  simpa using ht

end StackCompiler.Yaml
