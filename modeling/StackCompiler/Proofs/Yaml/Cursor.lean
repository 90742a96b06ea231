import Mathlib.Data.List.TakeWhile
import StackCompiler.Yaml.Token

/-!
# Moving over written texts

What is written has printable characters of ASCII and line feeds only. `Cursor.before` is a cursor
with a text before it, and `Cursor.past` one that has moved over a text (`Cursor.advanceBy_before`);
`Cursor.takeWhile_before` stops at the first character of another kind.
-/

namespace StackCompiler.Yaml

/-! ## Written characters -/

/-- A printable character of ASCII, or a line feed. -/
def isWrittenChar (c : Char) : Bool := isPlainAscii c || c == '\n'

section WrittenChar

variable {c d : Char}

theorem ne_of_isPlainAscii (h : isPlainAscii c) (hd : isPlainAscii d = false) : c ≠ d := by
  rintro rfl
  exact Bool.false_ne_true (hd.symm.trans h)

theorem isBreak_of_isPlainAscii (h : isPlainAscii c) : isBreak c = false := by
  simp [isBreak, ne_of_isPlainAscii h (d := '\n') (by decide),
    ne_of_isPlainAscii h (d := '\x85') (by decide),
    ne_of_isPlainAscii h (d := '\u2028') (by decide),
    ne_of_isPlainAscii h (d := '\u2029') (by decide)]

theorem isGap_of_isPlainAscii (h : isPlainAscii c) (hne : c ≠ ' ') : isGap c = false := by
  simp [isGap, isBreak_of_isPlainAscii h, hne, ne_of_isPlainAscii h (d := '\t') (by decide),
    ne_of_isPlainAscii h (d := '\r') (by decide), ne_of_isPlainAscii h (d := '\x00') (by decide)]

theorem isWrittenChar_of_isPlainAscii (h : isPlainAscii c) : isWrittenChar c := by
  rw [isWrittenChar, h, Bool.true_or]

theorem isPlainAscii_of_isWrittenChar (h : isWrittenChar c) (hne : c ≠ '\n') : isPlainAscii c := by
  simpa [isWrittenChar, hne] using h

end WrittenChar

namespace Cursor

/-! ## Places in a text -/

/-- A cursor before the rest of a text, of which `index` characters lie behind it. -/
def before (rest : List Char) (index line column : Nat) : Cursor :=
  { rest, size := index + rest.length, index, line, column }

variable {rest cs ds : List Char} {c : Char} {i l k : Nat} {p : Char → Bool}

@[simp] theorem rest_before : (Cursor.before rest i l k).rest = rest := rfl

@[simp] theorem index_before : (Cursor.before rest i l k).index = i := rfl

@[simp] theorem line_before : (Cursor.before rest i l k).line = l := rfl

@[simp] theorem column_before : (Cursor.before rest i l k).column = k := rfl

@[simp] theorem left_before : (Cursor.before rest i l k).left = rest.length := by
  simp [left, Cursor.before]

@[simp] theorem peek_before : (Cursor.before rest i l k).peek = rest.headD '\x00' := rfl

@[simp] theorem peekAt_before {n : Nat} :
    (Cursor.before rest i l k).peekAt n = (rest.drop n).headD '\x00' := rfl

/-- The line and the column after a text. -/
def placeAfter : List Char → Nat → Nat → Nat × Nat
  | [], line, column => (line, column)
  | c :: cs, line, column =>
    if isBreak c then placeAfter cs (line + 1) 0 else placeAfter cs line (column + 1)

theorem placeAfter_cons {c : Char} {cs : List Char} {line column : Nat} :
    placeAfter (c :: cs) line column =
      if isBreak c then placeAfter cs (line + 1) 0 else placeAfter cs line (column + 1) :=
  rfl

/-- A cursor that has moved over a text, before the rest. -/
def past (cs rest : List Char) (index line column : Nat) : Cursor :=
  .before rest (index + cs.length) (placeAfter cs line column).1 (placeAfter cs line column).2

theorem past_cons (h : isBreak c = false) :
    past (c :: cs) rest i l k = past cs rest (i + 1) l (k + 1) := by
  rw [past, placeAfter_cons, h, past, List.length_cons, Nat.add_right_comm, Nat.add_assoc]
  rfl

theorem past_newline : past ('\n' :: cs) rest i l k = past cs rest (i + 1) (l + 1) 0 := by
  rw [past, placeAfter_cons, past, List.length_cons, Nat.add_right_comm, Nat.add_assoc]
  rfl

theorem placeAfter_line : ∀ {cs : List Char} {k : Nat}, (∀ c ∈ cs, isBreak c = false) →
    placeAfter cs l k = (l, k + cs.length)
  | [], _, _ => rfl
  | c :: cs, k, h => by
    obtain ⟨hc, hcs⟩ := List.forall_mem_cons.1 h
    rw [placeAfter_cons, hc, if_neg Bool.false_ne_true, placeAfter_line hcs, List.length_cons,
      Nat.add_right_comm, Nat.add_assoc]

theorem past_line (h : ∀ c ∈ cs, isBreak c = false) :
    past cs rest i l k = .before rest (i + cs.length) l (k + cs.length) := by
  rw [past, placeAfter_line h]

theorem placeAfter_append : ∀ {cs : List Char} {l k : Nat}, placeAfter (cs ++ ds) l k =
    placeAfter ds (placeAfter cs l k).1 (placeAfter cs l k).2
  | [], _, _ => rfl
  | c :: cs, l, k => by
    rw [List.cons_append, placeAfter_cons, placeAfter_cons]
    split <;> exact placeAfter_append

theorem past_append : past (cs ++ ds) rest i l k =
    past ds rest (i + cs.length) (placeAfter cs l k).1 (placeAfter cs l k).2 := by
  rw [past, past, placeAfter_append, List.length_append, Nat.add_assoc]

theorem le_placeAfter : ∀ {cs : List Char} {l k : Nat}, l ≤ (placeAfter cs l k).1
  | [], _, _ => Nat.le_refl _
  | c :: cs, l, k => by
    rw [placeAfter_cons]
    split
    · exact (Nat.le_succ l).trans le_placeAfter
    · exact le_placeAfter

/-! ## Moving -/

/-- A character that takes one column and ends no line. -/
def IsOnLine (c : Char) : Prop := isBreak c = false ∧ c ≠ '\uFEFF'

theorem isOnLine_of_isPlainAscii (h : isPlainAscii c) : IsOnLine c :=
  ⟨isBreak_of_isPlainAscii h, ne_of_isPlainAscii h (by decide)⟩

theorem advance_before (h : IsOnLine c) :
    (Cursor.before (c :: rest) i l k).advance = Cursor.before rest (i + 1) l (k + 1) := by
  simp only [advance, Cursor.before, h.1, Bool.false_eq_true, if_false, if_neg h.2,
    List.length_cons]
  congr 1
  omega

theorem advanceBy_one (h : IsOnLine c) :
    (Cursor.before (c :: rest) i l k).advanceBy 1 = Cursor.before rest (i + 1) l (k + 1) :=
  (rfl : advanceBy 1 _ = advance _).trans (advance_before h)

theorem advance_break (h : isBreak c) :
    (Cursor.before (c :: rest) i l k).advance = Cursor.before rest (i + 1) (l + 1) 0 := by
  simp only [advance, Cursor.before, h, if_true, List.length_cons]
  congr 1
  omega

theorem advanceBy_before : ∀ {cs : List Char} {i k : Nat}, (∀ c ∈ cs, IsOnLine c) →
    (Cursor.before (cs ++ rest) i l k).advanceBy cs.length =
      Cursor.before rest (i + cs.length) l (k + cs.length)
  | [], _, _, _ => rfl
  | c :: cs, i, k, h => by
    obtain ⟨hc, hcs⟩ := List.forall_mem_cons.1 h
    rw [List.cons_append, List.length_cons, advanceBy, advance_before hc, advanceBy_before hcs]
    congr 1 <;> omega

/-- Characters of a class up to the first other one. -/
theorem takeWhile_before (hline : ∀ c ∈ cs, IsOnLine c) (hcs : ∀ c ∈ cs, p c)
    (hrest : ∀ c ∈ rest.head?, p c = false) :
    (Cursor.before (cs ++ rest) i l k).takeWhile p =
      (cs, Cursor.before rest (i + cs.length) l (k + cs.length)) := by
  have hrun : (cs ++ rest).takeWhile p = cs := by
    rw [List.takeWhile_append_of_pos hcs]
    cases rest with
    | nil => simp
    | cons c rest => simp [hrest c rfl]
  rw [takeWhile, rest_before, hrun, advanceBy_before hline]

theorem takeWhile_none (hrest : ∀ c ∈ rest.head?, p c = false) :
    (Cursor.before rest i l k).takeWhile p = ([], .before rest i l k) :=
  @takeWhile_before rest [] i l k p (by simp) (by simp) hrest

theorem takeWhile_cons (hc : p c) (hline : IsOnLine c) :
    (Cursor.before (c :: rest) i l k).takeWhile p =
      (c :: ((Cursor.before rest (i + 1) l (k + 1)).takeWhile p).1,
        ((Cursor.before rest (i + 1) l (k + 1)).takeWhile p).2) := by
  rw [takeWhile, rest_before, List.takeWhile_cons_of_pos hc, List.length_cons, advanceBy,
    advance_before hline]
  rfl

theorem rest_advanceBy : ∀ (n : Nat) (c : Cursor), (c.advanceBy n).rest = c.rest.drop n
  | 0, _ => rfl
  | n + 1, c => by
    have hadvance : c.advance.rest = c.rest.drop 1 := by
      unfold advance
      split
      · rename_i heq
        rw [heq]
        rfl
      · rename_i heq
        rw [heq]
        split <;> rfl
    rw [advanceBy, rest_advanceBy n, hadvance, List.drop_drop, Nat.add_comm]

theorem rest_takeWhile (c : Cursor) : (c.takeWhile p).2.rest = c.rest.dropWhile p := by
  have hdrop : (c.rest.takeWhile p ++ c.rest.dropWhile p).drop (c.rest.takeWhile p).length =
      c.rest.dropWhile p := List.drop_left
  rw [List.takeWhile_append_dropWhile] at hdrop
  rw [takeWhile, rest_advanceBy, hdrop]

/-- Blanks before something else. -/
theorem skipSpaces_before {n : Nat} (hrest : ∀ c ∈ rest.head?, c ≠ ' ') :
    (Cursor.before (List.replicate n ' ' ++ rest) i l k).skipSpaces =
      Cursor.before rest (i + n) l (k + n) := by
  have hblank : ∀ c ∈ List.replicate n ' ', c = ' ' := fun c hc => List.eq_of_mem_replicate hc
  rw [skipSpaces, skipWhile, takeWhile_before (fun c hc => ?_) (fun c hc => ?_) (fun c hc => ?_)]
  · rw [List.length_replicate]
  · rw [hblank c hc]
    exact ⟨by decide, by decide⟩
  · rw [hblank c hc]
    rfl
  · simpa using hrest c hc

theorem lineBreak?_newline :
    (Cursor.before ('\n' :: rest) i l k).lineBreak? =
      some ('\n', Cursor.before rest (i + 1) (l + 1) 0) := by
  rw [lineBreak?, advance_break rfl]
  rfl

theorem lineBreak?_eq_none (h : isBreak (rest.headD '\x00') = false) :
    (Cursor.before rest i l k).lineBreak? = none := by
  rw [lineBreak?, peek_before, h]
  rfl

end Cursor
end StackCompiler.Yaml
