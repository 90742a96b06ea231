import StackCompiler.Proofs.Yaml.Runs

/-!
# The tokens of sheets

A written sheet is cut into the tokens of its entries, one after the other (`tokens_of_written`), if
each of its keys ends before it is given up (`Sheet.Fits`).
-/

namespace StackCompiler.Yaml

open Lexer (Level Runs RunsOn IsLine keyToken valueToken)

variable {t text rest : List Char} {k width : Nat} {ts all : List Token} {v : Level}

/-! ## Tokens -/

def entryTokens (e : String × String) : List Token :=
  [.key, keyToken e.1, .value, valueToken e.2]

def Part.tokens : Part → List Token
  | .text s => [valueToken s]
  | .group [] => [.flowMappingStart, .flowMappingEnd]
  | .group (e :: es) => .blockMappingStart :: ((e :: es).flatMap entryTokens ++ [.blockEnd])

def partTokens (e : String × Part) : List Token := .key :: keyToken e.1 :: .value :: e.2.tokens

def Sheet.tokens (sheet : Sheet) : List Token :=
  .blockMappingStart :: (sheet.flatMap partTokens ++ [.blockEnd, .streamEnd])

/-- The keys of a part. -/
def Part.keys : Part → List String
  | .text _ => []
  | .group entries => entries.map (·.1)

/-- A sheet whose keys all end before they are given up. -/
def Sheet.Fits (sheet : Sheet) : Prop :=
  ∀ e ∈ sheet, KeyFits e.1 ∧ ∀ key ∈ e.2.keys, KeyFits key

/-! ## Lines -/

/-- A text from the start of a line on, which is indented by no more than a width. -/
def LineRuns (width : Nat) (ts : List Token) (v : Level) (text : List Char) (all : List Token) :
    Prop :=
  ∃ k rest, text = List.replicate k ' ' ++ rest ∧ k ≤ width ∧ IsLine k rest ∧ Runs ts v k rest all

theorem KeyWritten.startsToken {key : String} (h : KeyWritten width key.toList t)
    (hwidth : width < lineWidth) (rest : List Char) : StartsToken (t ++ rest) := by
  cases h with
  | simple hsimple =>
    rw [List.append_assoc]
    exact (written_keyForm hwidth hsimple).startsToken _
  | complex => exact startsToken_cons (by decide) (by decide) (by decide)

/-- An entry of a group. -/
theorem runs_entry {e : String × String} (h : EntryWritten indentStep e t) (hfits : KeyFits e.1)
    (hle : v.indent ≤ indentStep) (hnext : LineRuns indentStep
      (ts ++ (v.opening indentStep ++ entryTokens e)) (v.opened indentStep) text all) :
    LineRuns indentStep ts v (t ++ text) all := by
  obtain ⟨key, value, hkey, hvalue, rfl⟩ := h
  obtain ⟨k, rest, rfl, hk, hline, hruns⟩ := hnext
  have hstarts := hkey.startsToken (by decide) (value ++ (List.replicate k ' ' ++ rest))
  have hgap : gapFollows (value ++ (List.replicate k ' ' ++ rest)) := by
    obtain ⟨w, -, rfl⟩ := hvalue
    rfl
  have hrunsOn : RunsOn (!isSimpleKey e.1.toList)
      (ts ++ (v.opening indentStep ++ [.key, keyToken e.1, .value])) (v.opened indentStep)
      (value ++ (List.replicate k ' ' ++ rest)) all := by
    refine .text hvalue (Level.indent_opened hle) hk hline ?_
    simpa [entryTokens] using hruns
  refine ⟨indentStep, key ++ (value ++ (List.replicate k ' ' ++ rest)), by simp, Nat.le_refl _,
    ⟨hstarts, startsWithMark_blanks (by decide)⟩, ?_⟩
  exact Lexer.runs_key hkey hfits (by decide) hle (by decide) hgap hrunsOn

/-- Entries of a group, one after the other. -/
theorem runs_entries {es : List (String × String)} {texts : List (List Char)}
    (h : List.Forall₂ (EntryWritten indentStep) es texts) (hfits : ∀ e ∈ es, KeyFits e.1)
    (hindent : v.indent = indentStep) :
    ∀ {ts : List Token}, LineRuns indentStep (ts ++ es.flatMap entryTokens) v text all →
      LineRuns indentStep ts v (texts.flatten ++ text) all := by
  have hopening : v.opening indentStep = [] := if_neg (by omega)
  have hopened : v.opened indentStep = v := if_neg (by omega)
  induction h with
  | nil =>
    intro ts hnext
    simpa using hnext
  | cons he _ ih =>
    intro ts hnext
    obtain ⟨hfit, hfits⟩ := List.forall_mem_cons.1 hfits
    rw [List.flatMap_cons, ← List.append_assoc] at hnext
    rw [List.flatten_cons, List.append_assoc]
    refine runs_entry he hfit (Int.le_of_eq hindent) ?_
    rw [hopening, hopened, List.nil_append]
    exact ih hfits hnext

/-- The first entries of a group, from the line after its key on. -/
theorem runs_group {es : List (String × String)} {texts : List (List Char)}
    (h : List.Forall₂ (EntryWritten indentStep) es texts) (hne : es ≠ [])
    (hfits : ∀ e ∈ es, KeyFits e.1) (hlt : v.indent < indentStep)
    (hnext : LineRuns indentStep (ts ++ .blockMappingStart :: es.flatMap entryTokens)
      (v.at indentStep) text all) : LineRuns indentStep ts v (texts.flatten ++ text) all := by
  cases h with
  | nil => exact absurd rfl hne
  | cons he hes =>
    obtain ⟨hfit, hfits⟩ := List.forall_mem_cons.1 hfits
    rw [List.flatten_cons, List.append_assoc]
    refine runs_entry he hfit (Int.le_of_lt hlt) ?_
    rw [Level.opening, Level.opened, if_pos hlt, if_pos hlt]
    refine runs_entries hes hfits rfl ?_
    simpa using hnext

/-- Lines after the key of a group. -/
theorem LineRuns.runsOn {mayStartKey : Bool} (h : LineRuns width ts v text all) :
    RunsOn mayStartKey ts v ('\n' :: text) all := by
  obtain ⟨k, rest, rfl, -, hline, hruns⟩ := h
  exact .lines hline.starts hruns

theorem Part.Written.gapFollows {part : Part} (h : part.Written t) : gapFollows (t ++ text) := by
  cases h with
  | text hvalue =>
    obtain ⟨w, -, rfl⟩ := hvalue
    rfl
  | empty => rfl
  | group => rfl

/-- What follows the key of a part. -/
theorem runs_partValue {part : Part} (h : part.Written t) (hfits : ∀ key ∈ part.keys, KeyFits key)
    (hindent : v.indent = 0) (hnext : LineRuns 0 (ts ++ part.tokens) v text all) :
    RunsOn false ts v (t ++ text) all := by
  obtain ⟨k, rest, rfl, hk, hline, hruns⟩ := hnext
  cases h with
  | text hvalue => exact .text hvalue hindent hk hline hruns
  | empty => exact .braces hline.starts hruns
  | @group e es texts hentries =>
    have hlt : v.indent < indentStep := by simp [hindent, indentStep]
    refine (runs_group hentries (List.cons_ne_nil e es) (List.forall_mem_map.1 hfits) hlt
      ⟨k, rest, rfl, by omega, hline, ?_⟩).runsOn
    refine .close (by unfold indentStep; omega) ?_
    simpa [Part.tokens] using hruns

/-- The key of a part and what follows it. -/
theorem runs_partKey {e : String × Part} (hsimple : isSimpleKey e.1.toList) (hfit : KeyFits e.1)
    (hle : v.indent ≤ 0) (hgap : gapFollows text)
    (h : RunsOn false (ts ++ (v.opening 0 ++ [.key, keyToken e.1, .value])) (v.opened 0) text all) :
    LineRuns 0 ts v (keyForm e.1.toList ++ ':' :: text) all := by
  have hform := @written_keyForm _ indentStep (by decide) hsimple
  exact ⟨0, keyForm e.1.toList ++ ':' :: text, by simp, Nat.le_refl 0, ⟨hform.startsToken _,
    startsWithMark_colon (startsWithMark_keyForm _)⟩,
    Lexer.runs_simpleKey hsimple (hfit hsimple) (by decide) hle hgap h⟩

/-- An entry of a sheet. -/
theorem runs_part {e : String × Part} (h : PartWritten e t) (hsimple : isSimpleKey e.1.toList)
    (hfits : KeyFits e.1 ∧ ∀ key ∈ e.2.keys, KeyFits key) (hle : v.indent ≤ 0)
    (hnext : LineRuns 0 (ts ++ (v.opening 0 ++ partTokens e)) (v.opened 0) text all) :
    LineRuns 0 ts v (t ++ text) all := by
  obtain ⟨p, hp, rfl⟩ := h
  rw [List.append_assoc, List.cons_append]
  refine runs_partKey hsimple hfits.1 hle hp.gapFollows ?_
  refine runs_partValue hp hfits.2 (Level.indent_opened hle) ?_
  simpa [partTokens] using hnext

/-- Entries of a sheet, one after the other. -/
theorem runs_parts {sheet : Sheet} {texts : List (List Char)}
    (h : List.Forall₂ PartWritten sheet texts) (hsimple : ∀ e ∈ sheet, isSimpleKey e.1.toList)
    (hfits : sheet.Fits) (hindent : v.indent = 0) :
    ∀ {ts : List Token}, LineRuns 0 (ts ++ sheet.flatMap partTokens) v text all →
      LineRuns 0 ts v (texts.flatten ++ text) all := by
  have hopening : v.opening 0 = [] := if_neg (by omega)
  have hopened : v.opened 0 = v := if_neg (by omega)
  induction h with
  | nil =>
    intro ts hnext
    simpa using hnext
  | cons he _ ih =>
    intro ts hnext
    obtain ⟨hkey, hkeys⟩ := List.forall_mem_cons.1 hsimple
    obtain ⟨hfit, hfits⟩ := List.forall_mem_cons.1 hfits
    rw [List.flatMap_cons, ← List.append_assoc] at hnext
    rw [List.flatten_cons, List.append_assoc]
    refine runs_part he hkey hfit (Int.le_of_eq hindent) ?_
    rw [hopening, hopened, List.nil_append]
    exact ih hkeys hfits hnext

/-- The first entries of a sheet, from the start of the text on. -/
theorem runs_sheet {sheet : Sheet} {texts : List (List Char)}
    (h : List.Forall₂ PartWritten sheet texts) (hne : sheet ≠ [])
    (hsimple : ∀ e ∈ sheet, isSimpleKey e.1.toList) (hfits : sheet.Fits)
    (hnext : LineRuns 0 (.blockMappingStart :: sheet.flatMap partTokens) (Level.at 0 {}) text all) :
    LineRuns 0 [] {} (texts.flatten ++ text) all := by
  cases h with
  | nil => exact absurd rfl hne
  | cons he hes =>
    obtain ⟨hkey, hkeys⟩ := List.forall_mem_cons.1 hsimple
    obtain ⟨hfit, hfits⟩ := List.forall_mem_cons.1 hfits
    rw [List.flatten_cons, List.append_assoc]
    exact runs_part he hkey hfit (by decide) (runs_parts hes hkeys hfits rfl hnext)

theorem tokens_of_lineRuns (h : LineRuns 0 [] {} t all) : tokens t = all := by
  obtain ⟨k, rest, rfl, hk, hline, hruns⟩ := h
  obtain rfl : k = 0 := Nat.le_zero.1 hk
  have hstart : ({ cursor := { rest } } : Lexer) = Lexer.after [] {} true (.before rest 0 0 0) := by
    simp [Lexer.after, Cursor.before]
  have hskip : (Lexer.after [] {} true (.before rest 0 0 0)).skipGap =
      Lexer.after [] {} true (.before rest 0 0 0) :=
    Lexer.skipGap_blanks (n := 0) hline.starts rfl
  change tokens rest = all
  rw [tokens, hstart]
  exact hruns _ 0 0 _ (Lexer.approach_of_skipGap hskip (.inl rfl)) (Nat.lt_succ_self _)

/-- A written sheet is cut into its tokens. -/
theorem tokens_of_written {sheet : Sheet} (h : sheet.Written t) (hne : sheet ≠ [])
    (hsimple : ∀ e ∈ sheet, isSimpleKey e.1.toList) (hfits : sheet.Fits) :
    tokens t = sheet.tokens := by
  obtain ⟨texts, htexts, rfl⟩ := h
  have hend := @Lexer.runs_end (.blockMappingStart :: sheet.flatMap partTokens)
  have hlines : LineRuns 0 [] {} (texts.flatten ++ (List.replicate 0 ' ' ++ [])) sheet.tokens :=
    runs_sheet htexts hne hsimple hfits
      ⟨0, [], rfl, Nat.le_refl 0, ⟨startsToken_nil, rfl⟩, by simpa [Sheet.tokens] using hend⟩
  have htext : texts.flatten ++ (List.replicate 0 ' ' ++ []) = texts.flatten := List.append_nil _
  rw [htext] at hlines
  exact tokens_of_lineRuns hlines

end StackCompiler.Yaml
