import StackCompiler.Proofs.Data.Entries
import StackCompiler.Proofs.Encoding.Utf8
import StackCompiler.Proofs.Yaml.Folding

/-!
# Escaped texts

`Escaped width cs w` says that `w` is a way to write the text `cs` between quotation marks: its
special characters are escaped, and a line may end anywhere after a backslash. Texts are written so
(`escaped_putEscapedChars`), and an escape stands for its character (`exists_cons_of_isEscape`).
-/

namespace StackCompiler.Yaml

variable {cs e w rest : List Char} {c : Char} {pen : Pen} {width n i l k : Nat}

/-! ## Hexadecimal digits -/

/-- The digit of a number below sixteen. -/
def upperHexDigit (n : Nat) : Char := (Nat.digitChar n).toUpper

theorem isHexadecimal_upperHexDigit : ∀ n < 16, isHexadecimal (upperHexDigit n) := by decide

theorem hexadecimalValue_append (ds : List Char) (hn : n < 16) :
    hexadecimalValue (ds ++ [upperHexDigit n]) = hexadecimalValue ds * 16 + n := by
  have hdigit : ∀ n < 16, (if Text.isAsciiDigit (upperHexDigit n) then
      (upperHexDigit n).toNat - 48 else (upperHexDigit n).toLower.toNat - 87) = n := by decide
  rw [hexadecimalValue, List.foldl_append]
  exact congrArg (hexadecimalValue ds * 16 + ·) (hdigit n hn)

theorem toUpper_toDigits (n : Nat) : (Nat.toDigits 16 n).map Char.toUpper =
    if n < 16 then [upperHexDigit n] else
      (Nat.toDigits 16 (n / 16)).map Char.toUpper ++ [upperHexDigit (n % 16)] := by
  rw [Nat.toDigits_eq_if (by decide)]
  split
  · rfl
  · rw [List.map_append]
    rfl

theorem forall_mem_toDigits : ∀ n : Nat, ∀ c ∈ (Nat.toDigits 16 n).map Char.toUpper,
    isHexadecimal c := by
  intro n
  induction n using Nat.strong_induction_on with
  | _ n ih =>
    rw [toUpper_toDigits]
    split
    · exact List.forall_mem_singleton.2 (isHexadecimal_upperHexDigit n ‹_›)
    · exact List.forall_mem_append.2 ⟨ih (n / 16) (by omega),
        List.forall_mem_singleton.2 (isHexadecimal_upperHexDigit _ (by omega))⟩

theorem hexadecimalValue_toDigits (n : Nat) :
    hexadecimalValue ((Nat.toDigits 16 n).map Char.toUpper) = n := by
  induction n using Nat.strong_induction_on with
  | _ n ih =>
    rw [toUpper_toDigits]
    split
    · exact (hexadecimalValue_append [] ‹_›).trans (Nat.zero_add n)
    · rw [hexadecimalValue_append _ (by omega), ih (n / 16) (by omega)]
      omega

theorem hexadecimalValue_zeros (m : Nat) (ds : List Char) :
    hexadecimalValue (List.replicate m '0' ++ ds) = hexadecimalValue ds := by
  induction m with
  | zero => rfl
  | succ m ih => exact ih

theorem forall_mem_upperHexDigits (width n : Nat) : ∀ c ∈ upperHexDigits width n, isHexadecimal c :=
  List.forall_mem_append.2 ⟨fun c hc => by rw [List.eq_of_mem_replicate hc]; decide,
    forall_mem_toDigits n⟩

theorem hexadecimalValue_upperHexDigits (width n : Nat) :
    hexadecimalValue (upperHexDigits width n) = n :=
  (hexadecimalValue_zeros _ _).trans (hexadecimalValue_toDigits n)

theorem length_upperHexDigits (hwidth : 0 < width) (hn : n < Nat.pow 16 width) :
    (upperHexDigits width n).length = width := by
  have hle : (Nat.toDigits 16 n).length ≤ width :=
    (Nat.length_toDigits_le_iff (by decide) hwidth).2 hn
  rw [upperHexDigits, List.length_append, List.length_replicate, List.length_map]
  omega

/-! ## Escapes -/

/-- The ways to escape a character; a blank need not be escaped. -/
def IsEscape (c : Char) (e : List Char) : Prop := escape? c = some e ∨ c = ' ' ∧ e = ['\\', ' ']

/-- How the escape of a character begins: a letter of its own, or one that digits follow. -/
theorem exists_of_escape? (h : escape? c = some e) :
    (∃ letter, escapeLetters.lookup c = some letter ∧ e = ['\\', letter]) ∨
      ∃ letter width, escapeWidths.lookup letter = some width ∧
        e = '\\' :: letter :: upperHexDigits width c.toNat ∧ c.toNat < Nat.pow 16 width := by
  unfold escape? at h
  split at h
  · cases h
    exact .inl ⟨_, ‹_›, rfl⟩
  · refine .inr ?_
    split at h
    · cases h
    · split at h
      · cases h
        exact ⟨'x', 2, rfl, rfl, Nat.lt_succ_of_le ‹_›⟩
      · split at h
        · cases h
          exact ⟨'u', 4, rfl, rfl, Nat.lt_succ_of_le ‹_›⟩
        · cases h
          exact ⟨'U', 8, rfl, rfl, by
            have := Utf8.toNat_valid c
            show c.toNat < 4294967296
            omega⟩

theorem isPlainAscii_of_isHexadecimal (h : isHexadecimal c) : isPlainAscii c := by
  rw [isHexadecimal, Text.isAsciiDigit] at h
  simp only [Bool.or_eq_true, Bool.and_eq_true, decide_eq_true_eq, Char.le_def,
    UInt32.le_iff_toNat_le] at h
  change ((48 ≤ c.toNat ∧ c.toNat ≤ 57) ∨ 97 ≤ c.toNat ∧ c.toNat ≤ 102) ∨
    65 ≤ c.toNat ∧ c.toNat ≤ 70 at h
  rw [isPlainAscii, Bool.and_eq_true, decide_eq_true_eq, decide_eq_true_eq]
  omega

theorem escapedLetters_of_lookup {letter : Char} (h : escapeLetters.lookup c = some letter) :
    escapedLetters.lookup letter = some c ∧ isPlainAscii letter := by
  have hall : escapeLetters.all fun p =>
      escapedLetters.lookup p.2 == some p.1 && isPlainAscii p.2 := by decide
  simpa using List.all_eq_true.1 hall _ (mem_of_lookup_eq_some h)

theorem escapeWidths_of_lookup {letter : Char} (h : escapeWidths.lookup letter = some width) :
    escapedLetters.lookup letter = none ∧ isPlainAscii letter ∧ 0 < width := by
  have hall : escapeWidths.all fun p =>
      escapedLetters.lookup p.1 == none && (isPlainAscii p.1 && decide (0 < p.2)) := by decide
  simpa using List.all_eq_true.1 hall _ (mem_of_lookup_eq_some h)

theorem escapeSequence_letter {letter : Char} (h : escapedLetters.lookup letter = some c)
    (hletter : isPlainAscii letter) : escapeSequence (.before (letter :: rest) i l k) =
      .ok ([c], .before rest (i + 1) l (k + 1)) := by
  rw [escapeSequence, Cursor.peek_before, List.headD_cons, h,
    Cursor.advance_before (Cursor.isOnLine_of_isPlainAscii hletter)]

/-- The code of a character is no half of a pair. -/
theorem joined?_eq_none (c : Char) (cursor : Cursor) : joined? c.toNat cursor = none := by
  have hsurrogates : ∀ m, Unicode.ofSurrogates? c.toNat m = none := fun m => by
    have := Utf8.toNat_valid c
    exact if_neg (by omega)
  unfold joined?
  split
  · rfl
  · cases escapedCode? cursor.advance with
    | none => rfl
    | some p =>
      change (Unicode.ofSurrogates? c.toNat p.1 >>= _) = none
      rw [hsurrogates]
      rfl

theorem charOfCode_toNat (c : Char) : charOfCode c.toNat = .ok c := by
  have hvalid := Utf8.toNat_valid c
  have hchar : Unicode.char c.toNat = c := by
    rw [Unicode.char, if_neg (by omega), Char.ofNat_toNat]
  rw [charOfCode, if_pos (by omega), hchar]

theorem escapeSequence_digits {letter : Char} (h : escapeWidths.lookup letter = some width)
    (hlt : c.toNat < Nat.pow 16 width) :
    escapeSequence (.before (letter :: upperHexDigits width c.toNat ++ rest) i l k) =
      .ok ([c], .before rest (i + (width + 1)) l (k + (width + 1))) := by
  obtain ⟨hnone, hletter, hpos⟩ := escapeWidths_of_lookup h
  have hlength := length_upperHexDigits hpos hlt
  have hadvance := @Cursor.advanceBy_before rest l (letter :: upperHexDigits width c.toNat) i k
    (List.forall_mem_cons.2
      ⟨Cursor.isOnLine_of_isPlainAscii hletter, fun d hd => Cursor.isOnLine_of_isPlainAscii
        (isPlainAscii_of_isHexadecimal (forall_mem_upperHexDigits _ _ d hd))⟩)
  rw [List.length_cons, hlength] at hadvance
  have hdigits : ((letter :: upperHexDigits width c.toNat ++ rest).drop 1).take width =
      upperHexDigits width c.toNat := by
    rw [List.cons_append, List.drop_one, List.tail_cons, List.take_append_of_le_length hlength.ge,
      List.take_of_length_le hlength.le]
  have hcode : escapedCode? (.before (letter :: upperHexDigits width c.toNat ++ rest) i l k) =
      some (c.toNat, .before rest (i + (width + 1)) l (k + (width + 1))) := by
    have hall : (upperHexDigits width c.toNat).all isHexadecimal :=
      List.all_eq_true.2 (forall_mem_upperHexDigits _ _)
    unfold escapedCode?
    rw [Cursor.peek_before, List.cons_append, List.headD_cons, h]
    dsimp only [bind, Option.bind]
    rw [Cursor.rest_before, ← List.cons_append, hdigits, hadvance, hall, hlength,
      hexadecimalValue_upperHexDigits]
    simp
  rw [escapeSequence, hcode, Cursor.peek_before, List.cons_append, List.headD_cons, hnone]
  dsimp only
  rw [joined?_eq_none, charOfCode_toNat]
  rfl

/-- An escape is a backslash and characters that stand for the character after it. -/
theorem exists_cons_of_isEscape (h : IsEscape c e) : ∃ f, e = '\\' :: f ∧
    (∀ d ∈ f, isPlainAscii d) ∧ ∀ rest i l k, escapeSequence (.before (f ++ rest) i l k) =
      .ok ([c], .before rest (i + f.length) l (k + f.length)) := by
  rcases h with h | ⟨rfl, rfl⟩
  · rcases exists_of_escape? h with ⟨letter, hlookup, rfl⟩ | ⟨letter, width, hlookup, rfl, hlt⟩
    · obtain ⟨hread, hletter⟩ := escapedLetters_of_lookup hlookup
      exact ⟨[letter], rfl, List.forall_mem_singleton.2 hletter, fun rest i l k =>
        escapeSequence_letter hread hletter⟩
    · obtain ⟨-, hletter, hpos⟩ := escapeWidths_of_lookup hlookup
      refine ⟨_, rfl, List.forall_mem_cons.2 ⟨hletter, fun d hd => isPlainAscii_of_isHexadecimal
        (forall_mem_upperHexDigits _ _ d hd)⟩, fun rest i l k => ?_⟩
      rw [List.length_cons, length_upperHexDigits hpos hlt]
      exact escapeSequence_digits hlookup hlt
  · exact ⟨[' '], rfl, by simp [isPlainAscii], fun rest i l k =>
      escapeSequence_letter (by decide) (by decide)⟩

/-! ## Escaped texts -/

inductive Escaped (width : Nat) : List Char → List Char → Prop where
  | nil : Escaped width [] []
  | char {c : Char} {cs w : List Char} : escape? c = none → Escaped width cs w →
    Escaped width (c :: cs) (c :: w)
  | escape {c : Char} {e cs w : List Char} : IsEscape c e → Escaped width cs w →
    Escaped width (c :: cs) (e ++ w)
  | fold {cs w : List Char} : w.head? ≠ some ' ' → Escaped width cs w →
    Escaped width cs ('\\' :: '\n' :: (List.replicate width ' ' ++ w))

/-- Only a blank is written as one. -/
theorem Escaped.head (h : Escaped width cs w) (hblank : w.head? = some ' ') :
    ∃ cs' w', cs = ' ' :: cs' ∧ w = ' ' :: w' ∧ Escaped width cs' w' := by
  cases h with
  | nil => cases hblank
  | char _ h =>
    cases hblank
    exact ⟨_, _, rfl, rfl, h⟩
  | escape he =>
    obtain ⟨f, rfl, -⟩ := exists_cons_of_isEscape he
    cases hblank
  | fold => cases hblank

/-- A character between quotation marks, when no line ends there. -/
def escapedForm (c : Char) : List Char := (escape? c).getD [c]

namespace Pen

/-- The end of a line between quotation marks, before a character. -/
def fold (width : Nat) (next : Option Char) (pen : Pen) : Pen :=
  let pen := { (pen.put ['\\']).indent width with afterGap := false, atIndent := false }
  if next = some ' ' then pen.put ['\\'] else pen

theorem column_indent_newline (width : Nat) (pen : Pen) :
    (pen.newline.indent width).column = width := by
  cases width with
  | zero => rfl
  | succ n => simp [indent, newline, put]

theorem fold_spec {pen : Pen} (h : pen.atIndent = false) (next : Option Char) :
    (pen.fold width next).text.toList = pen.text.toList ++ ('\\' :: '\n' ::
        (List.replicate width ' ' ++ if next = some ' ' then ['\\'] else [])) ∧
      (pen.fold width next).atIndent = false ∧ (pen.fold width next).column ≤ width + 1 := by
  have hindent : (pen.put ['\\']).indent width = (pen.put ['\\']).newline.indent width :=
    indent_eq (.inl h)
  have htext : ((pen.put ['\\']).indent width).text.toList =
      pen.text.toList ++ ('\\' :: '\n' :: List.replicate width ' ') := by
    rw [@toList_indent width (pen.put ['\\']) (.inl h), toList_put, List.append_assoc,
      List.singleton_append]
  have hcolumn : ((pen.put ['\\']).indent width).column = width := by
    rw [hindent, column_indent_newline]
  unfold fold
  split
  · refine ⟨?_, rfl, ?_⟩
    · rw [toList_put, htext, List.append_assoc]
      rfl
    · exact (congrArg (· + 1) hcolumn).le
  · refine ⟨?_, rfl, ?_⟩
    · rw [List.append_nil]
      exact htext
    · exact hcolumn.le.trans (Nat.le_succ width)

end Pen

theorem putEscapedChars_cons (mayFold isFirst : Bool) (run : List Char) (c : Char)
    (rest : List Char) (pen : Pen) :
    putEscapedChars width mayFold isFirst run (c :: rest) pen =
      let inside := mayFold && !isFirst && !rest.isEmpty
      match escape? c with
      | some escaped =>
        let pen := (pen.put run.reverse).put escaped
        let pen := if inside && lineWidth + 1 < pen.column then pen.fold width rest.head? else pen
        putEscapedChars width mayFold false [] rest pen
      | none =>
        if inside && (c == ' ' || run.isEmpty) && lineWidth < pen.column + run.length then
          putEscapedChars width mayFold false [c] rest ((pen.put run.reverse).fold width (some c))
        else putEscapedChars width mayFold false (c :: run) rest pen := (rfl)

/-- A line may end before a text; if that starts with a blank, the blank is escaped then. -/
theorem Escaped.folded (h : Escaped width cs w)
    (hblank : cs.head? = some ' ' → w.head? = some ' ') :
    Escaped width cs ('\\' :: '\n' :: (List.replicate width ' ' ++
      ((if cs.head? = some ' ' then ['\\'] else []) ++ w))) := by
  split
  · obtain ⟨cs', w', rfl, rfl, h'⟩ := h.head (hblank ‹_›)
    have hescaped : Escaped width (' ' :: cs') (['\\', ' '] ++ w') := .escape (.inr ⟨rfl, rfl⟩) h'
    exact .fold (by simp) hescaped
  · rename_i hhead
    refine .fold (fun hw => hhead ?_) h
    obtain ⟨cs', w', rfl, -, -⟩ := h.head hw
    rfl

/-- Texts between quotation marks are escaped. What was read and not yet written comes first, and
then a blank for a blank if the line has room for it. -/
theorem escaped_putEscapedChars (hwidth : width < lineWidth) (mayFold : Bool) :
    ∀ (cs : List Char) (isFirst : Bool) (run : List Char) (pen : Pen), pen.atIndent = false →
      ∃ w, Escaped width cs w ∧
        (putEscapedChars width mayFold isFirst run cs pen).text.toList =
          pen.text.toList ++ (run.reverse ++ w) ∧
        (mayFold = false → w = cs.flatMap escapedForm) ∧
        (run = [] → pen.column ≤ lineWidth → cs.head? = some ' ' → w.head? = some ' ')
  | [], isFirst, run, pen, _ => by
    refine ⟨[], .nil, ?_, fun _ => rfl, fun _ _ hhead => by cases hhead⟩
    rw [putEscapedChars, Pen.toList_put, List.append_nil]
  | c :: rest, isFirst, run, pen, hpen => by
    rw [putEscapedChars_cons]
    dsimp only
    cases hescape : escape? c with
    | some e =>
      have hnotBlank : c ≠ ' ' := by
        rintro rfl
        cases hescape
      dsimp only
      split
      · rename_i hfold
        obtain ⟨htext, hindent, hcolumn⟩ := @Pen.fold_spec width
          ((pen.put run.reverse).put e) hpen rest.head?
        obtain ⟨w, hw, hput, -, hblank⟩ := escaped_putEscapedChars hwidth mayFold rest false []
          (((pen.put run.reverse).put e).fold width rest.head?) hindent
        refine ⟨_, .escape (.inl hescape) (hw.folded fun hhead => hblank rfl (by omega) hhead), ?_,
          fun hnone => ?_, fun _ _ hhead => absurd (Option.some.inj hhead) hnotBlank⟩
        · rw [hput, htext, Pen.toList_put, Pen.toList_put]
          simp
        · simp [hnone] at hfold
      · obtain ⟨w, hw, hput, hflat, -⟩ := escaped_putEscapedChars hwidth mayFold rest false []
          ((pen.put run.reverse).put e) hpen
        refine ⟨_, .escape (.inl hescape) hw, ?_, fun hnone => ?_,
          fun _ _ hhead => absurd (Option.some.inj hhead) hnotBlank⟩
        · rw [hput, Pen.toList_put, Pen.toList_put]
          simp
        · rw [hflat hnone, List.flatMap_cons, escapedForm, hescape, Option.getD_some]
    | none =>
      dsimp only
      split
      · rename_i hfold
        obtain ⟨htext, hindent, -⟩ := @Pen.fold_spec width (pen.put run.reverse)
          hpen (some c)
        obtain ⟨w, hw, hput, -, -⟩ := escaped_putEscapedChars hwidth mayFold rest false [c]
          ((pen.put run.reverse).fold width (some c)) hindent
        refine ⟨_, (Escaped.char hescape hw).folded fun hhead => hhead, ?_, fun hnone => ?_,
          fun hrun hcolumn _ => ?_⟩
        · rw [hput, htext, Pen.toList_put]
          simp
        · simp [hnone] at hfold
        · simp only [Bool.and_eq_true, decide_eq_true_eq, hrun, List.length_nil] at hfold
          omega
      · obtain ⟨w, hw, hput, hflat, -⟩ := escaped_putEscapedChars hwidth mayFold rest false
          (c :: run) pen hpen
        refine ⟨_, .char hescape hw, ?_, fun hnone => ?_, fun _ _ hhead => hhead⟩
        · rw [hput, List.reverse_cons, List.append_assoc, List.singleton_append]
        · rw [hflat hnone, List.flatMap_cons, escapedForm, hescape, Option.getD_none]
          rfl

end StackCompiler.Yaml
