import StackCompiler.Proofs.Yaml.Pages
import StackCompiler.Proofs.Yaml.Tokens

/-!
# The tokens of pages

A written page is cut into the tokens of its parts, one after the other (`Page.runsOn`). A list that
is indented like the key before it has no tokens for its start and its end; a group has both, and
the end comes with the next line that is not indented as far (`Lexer.Runs.close`).
-/

namespace StackCompiler.Yaml

open Lexer (Level Runs RunsOn IsLine keyToken textToken)

/-! ## Tokens -/

def Leaf.token (l : Leaf) : Token := textToken l.style l.chars

mutual

def Page.tokens : Page → List Token
  | .leaf l => [l.token]
  | .items xs => xs.tokens
  | .group es => .blockMappingStart :: (es.tokens ++ [.blockEnd])

def Items.tokens : Items → List Token
  | .one x => .blockEntry :: x.tokens
  | .cons x xs => .blockEntry :: (x.tokens ++ xs.tokens)

def Item.tokens : Item → List Token
  | .leaf l => [l.token]
  | .group es => .blockMappingStart :: (es.tokens ++ [.blockEnd])

def Entries.tokens : Entries → List Token
  | .one key value => .key :: keyToken key :: .value :: value.tokens
  | .cons key value es => .key :: keyToken key :: .value :: (value.tokens ++ es.tokens)

end

/-! ## Dashes -/

variable {ts all : List Token} {v : Level} {t text rest : List Char} {c : Char}
  {i line k width : Nat} {key : String}

namespace Lexer

theorem step_dash {l : Lexer} (hcursor : l.cursor = .before ('-' :: ' ' :: rest) i line k) :
    l.step = l.blockEntry := by
  have hpeek : l.cursor.peek = '-' := by rw [hcursor, Cursor.peek_before, List.headD_cons]
  have hafter : isGap (l.cursor.peekAt 1) := by
    rw [hcursor, Cursor.peekAt_before]
    rfl
  have hmark : l.cursor.isAtMark = false := by
    rw [hcursor, Cursor.isAtMark]
    rfl
  unfold step
  simp [hpeek, hafter, hmark]

/-- At the dash of an item that is indented like the collection around it. -/
theorem step_item (hindent : v.indent = k) :
    step (after ts v true (.before ('-' :: ' ' :: rest) i line k)) =
      .ok (after (ts ++ [.blockEntry]) v true (.before (' ' :: rest) (i + 1) line (k + 1))) := by
  have hadvance := @advanceBy_mark (' ' :: rest) '-' i line k (by decide)
  rw [step_dash rfl, blockEntry]
  simp [after, openBlock, openHere, forgetKey, emitMark, emit, inFlow, hadvance, hindent, pure,
    Except.pure, bind, Except.bind]

/-- From the end of a dash on. -/
def RunsFrom (ts : List Token) (v : Level) (k : Nat) (rest : List Char) (all : List Token) : Prop :=
  ∀ fuel i line : Nat, rest.length < fuel → run fuel (after ts v true (.before rest i line k)) = all

theorem RunsOn.runsFrom (h : RunsOn true ts v rest all) (hindent : v.indent < k) :
    RunsFrom ts v k rest all := fun fuel i line hfuel => h fuel i line k hindent hfuel

theorem Runs.runsFrom (h : Runs ts v (k + 1) rest all) (hstarts : StartsToken rest)
    (hle : v.indent ≤ (k + 1 : Nat)) : RunsFrom ts v k (' ' :: rest) all := by
  intro fuel i line hfuel
  refine h fuel (i + 1) line _ ?_ (Nat.lt_of_succ_lt hfuel)
  rw [approach_blank hstarts hle, unwind_of_le (l := after ts v true _) hle]

theorem runs_item (hindent : v.indent = k)
    (h : RunsFrom (ts ++ [.blockEntry]) v (k + 1) (' ' :: rest) all) :
    Runs ts v k ('-' :: ' ' :: rest) all := by
  intro fuel i line l happroach hfuel
  rw [List.length_cons] at hfuel
  obtain ⟨fuel, rfl⟩ : ∃ fuel', fuel = fuel' + 1 := ⟨fuel - 1, by omega⟩
  rw [unwind_of_le (l := after ts v true _) (Int.le_of_eq hindent)] at happroach
  rw [run_of_step happroach (List.cons_ne_nil _ _) (step_item hindent)]
  exact h fuel (i + 1) line (Nat.lt_of_succ_lt_succ hfuel)

end Lexer

/-! ## Starts of pages -/

theorem Item.WrittenAt.exists_blank {x : Item} (h : x.WrittenAt width t) :
    ∃ rest, t = ' ' :: rest := by
  cases x with
  | leaf l =>
    obtain ⟨w, -, rfl⟩ := h
    exact ⟨_, rfl⟩
  | group es =>
    obtain ⟨t', -, rfl⟩ := h
    exact ⟨_, rfl⟩

theorem Page.WrittenAt.gapFollows {page : Page} (h : page.WrittenAt width t) :
    gapFollows (t ++ text) := by
  cases page with
  | leaf l =>
    obtain ⟨w, -, rfl⟩ := h
    rfl
  | items xs =>
    obtain ⟨t', -, rfl⟩ := h
    rfl
  | group es =>
    obtain ⟨t', -, rfl⟩ := h
    rfl

theorem Items.WrittenAt.isLine {xs : Items} (h : xs.WrittenAt width t) :
    IsLine width (t ++ text) := by
  have hdash : ∀ {x : Item} {t' rest : List Char}, x.WrittenAt width t' →
      IsLine width ('-' :: (t' ++ rest)) := by
    intro x t' rest hx
    obtain ⟨t'', rfl⟩ := hx.exists_blank
    refine ⟨startsToken_cons (by decide) (by decide) (by decide), ?_⟩
    cases width with
    | zero => rfl
    | succ width => exact startsWithMark_blanks (Nat.succ_pos width)
  cases xs with
  | one x =>
    obtain ⟨t', hx, rfl⟩ := h
    exact hdash hx
  | cons x xs =>
    obtain ⟨t', rest, hx, -, rfl⟩ := h
    rw [List.cons_append, List.append_assoc]
    exact hdash hx

theorem Entries.WrittenAt.isLine {es : Entries} (h : es.WrittenAt width t) (hfits : es.Fits) :
    IsLine width (t ++ text) := by
  have hkey : ∀ {key : String} {rest : List Char}, IsShortKey key →
      IsLine width (keyForm key.toList ++ ':' :: rest) := by
    intro key rest hkey
    refine ⟨(@written_keyForm _ indentStep (by decide) hkey.simple).startsToken _, ?_⟩
    cases width with
    | zero => exact startsWithMark_colon (startsWithMark_keyForm _)
    | succ width => exact startsWithMark_blanks (Nat.succ_pos width)
  cases es with
  | one key value =>
    obtain ⟨t', -, rfl⟩ := h
    rw [List.append_assoc, List.cons_append]
    exact hkey hfits.1
  | cons key value es =>
    obtain ⟨t', rest, -, -, rfl⟩ := h
    rw [List.append_assoc, List.cons_append]
    exact hkey hfits.1

/-! ## Runs -/

/-- The key of an entry. -/
theorem runs_entryKey (hkey : IsShortKey key) (hwidth : width + indentStep < lineWidth)
    (hle : v.indent ≤ width) (hgap : gapFollows text)
    (h : RunsOn false (ts ++ (v.opening width ++ [.key, keyToken key, .value])) (v.opened width)
      text all) : Runs ts v width (keyForm key.toList ++ ':' :: text) all :=
  Lexer.runs_simpleKey hkey.simple hkey.length_le hwidth hle hgap h

/-- A leaf after its key or its dash. -/
theorem Leaf.runsOn {l : Leaf} {mayStartKey : Bool} (h : l.WrittenAt width t)
    (hindent : v.indent = width) (hnext : LineRuns width (ts ++ [l.token]) v text all) :
    RunsOn mayStartKey ts v (t ++ text) all := by
  obtain ⟨w, hw, rfl⟩ := h
  obtain ⟨k, rest, rfl, hk, hline, hruns⟩ := hnext
  have htext : ' ' :: (w ++ ['\n']) ++ (List.replicate k ' ' ++ rest) =
      ' ' :: (w ++ '\n' :: (List.replicate k ' ' ++ rest)) := by simp
  rw [htext]
  exact .written hw hindent hk hline hruns

/-- A line from the column of its collection on. -/
theorem lineRuns_of_runs (hline : IsLine width text) (h : Runs ts v width text all) :
    LineRuns width ts v (List.replicate width ' ' ++ text) all :=
  ⟨width, text, rfl, Nat.le_refl _, hline, h⟩

theorem indent_le_inside (hindent : v.indent = width) : v.indent ≤ (width + indentStep : Nat) := by
  unfold indentStep
  omega

/-- A group starts before its entries, and ends before a line that belongs to what is around it. -/
theorem LineRuns.inside {es : Entries} (hindent : v.indent = width)
    (h : LineRuns width (ts ++ .blockMappingStart :: (es.tokens ++ [.blockEnd])) v text all) :
    LineRuns (width + indentStep) (ts ++ (v.opening (width + indentStep) ++ es.tokens))
      (v.opened (width + indentStep)) text all := by
  have hlt : v.indent < (width + indentStep : Nat) := by
    unfold indentStep
    omega
  obtain ⟨k, rest, rfl, hk, hline, hruns⟩ := h
  refine ⟨k, rest, rfl, by omega, hline, ?_⟩
  rw [Level.opening, Level.opened, if_pos hlt, if_pos hlt]
  refine .close (by unfold indentStep; omega) ?_
  simpa using hruns

-- By induction on pages, from the end of the text backwards: `hnext` runs what follows, where the
-- tokens of the page have been emitted.
mutual

theorem Page.runsOn (page : Page) {width : Nat} {ts : List Token} {v : Level} {t text : List Char}
    (h : page.WrittenAt width t) (hroom : HasRoom width page.levels) (hfits : page.Fits)
    (hindent : v.indent = width) (hnext : LineRuns width (ts ++ page.tokens) v text all) :
    RunsOn false ts v (t ++ text) all := by
  match page with
  | .leaf l => exact Leaf.runsOn h hindent hnext
  | .items xs =>
    obtain ⟨t', hxs, rfl⟩ := h
    have hruns := xs.runs hxs (hroom.mono (Nat.le_succ _)) hfits hindent hnext
    rw [List.cons_append, List.append_assoc]
    exact (lineRuns_of_runs hxs.isLine hruns).runsOn
  | .group es =>
    obtain ⟨t', hes, rfl⟩ := h
    have hruns := es.runs hes hroom.succ hfits (indent_le_inside hindent) (hnext.inside hindent)
    rw [List.cons_append, List.append_assoc]
    exact (lineRuns_of_runs (hes.isLine hfits) hruns).runsOn

theorem Items.runs (xs : Items) {width : Nat} {ts : List Token} {v : Level} {t text : List Char}
    (h : xs.WrittenAt width t) (hroom : HasRoom width xs.levels) (hfits : xs.Fits)
    (hindent : v.indent = width) (hnext : LineRuns width (ts ++ xs.tokens) v text all) :
    Runs ts v width (t ++ text) all := by
  match xs with
  | .one x =>
    obtain ⟨t', hx, rfl⟩ := h
    exact x.runs hx hroom hfits hindent (by simpa [Items.tokens] using hnext)
  | .cons x xs =>
    obtain ⟨t', rest, hx, hxs, rfl⟩ := h
    rw [List.cons_append, List.append_assoc, List.append_assoc]
    refine x.runs hx (hroom.mono (Nat.le_max_left _ _)) hfits.1 hindent ?_
    refine lineRuns_of_runs hxs.isLine ?_
    refine xs.runs hxs (hroom.mono (Nat.le_max_right _ _)) hfits.2 hindent ?_
    simpa [Items.tokens] using hnext

theorem Item.runs (x : Item) {width : Nat} {ts : List Token} {v : Level} {t text : List Char}
    (h : x.WrittenAt width t) (hroom : HasRoom width x.levels) (hfits : x.Fits)
    (hindent : v.indent = width)
    (hnext : LineRuns width (ts ++ [.blockEntry] ++ x.tokens) v text all) :
    Runs ts v width ('-' :: (t ++ text)) all := by
  obtain ⟨t', rfl⟩ := h.exists_blank
  refine Lexer.runs_item hindent ?_
  match x with
  | .leaf l =>
    have hruns : RunsOn true (ts ++ [.blockEntry]) v (' ' :: t' ++ text) all :=
      Leaf.runsOn h hindent hnext
    exact hruns.runsFrom (by omega)
  | .group es =>
    obtain ⟨t'', hes, heq⟩ := h
    cases heq
    have hruns := es.runs hes hroom.succ hfits (indent_le_inside hindent) (hnext.inside hindent)
    exact hruns.runsFrom (hes.isLine hfits).starts (indent_le_inside hindent)

theorem Entries.runs (es : Entries) {width : Nat} {ts : List Token} {v : Level}
    {t text : List Char} (h : es.WrittenAt width t) (hroom : HasRoom width es.levels)
    (hfits : es.Fits) (hle : v.indent ≤ width)
    (hnext : LineRuns width (ts ++ (v.opening width ++ es.tokens)) (v.opened width) text all) :
    Runs ts v width (t ++ text) all := by
  have hopened := Level.indent_opened hle
  match es with
  | .one key value =>
    obtain ⟨t', hvalue, rfl⟩ := h
    rw [List.append_assoc, List.cons_append]
    refine runs_entryKey hfits.1 hroom.lt hle hvalue.gapFollows ?_
    refine value.runsOn hvalue hroom hfits.2 hopened ?_
    simpa [Entries.tokens] using hnext
  | .cons key value es =>
    obtain ⟨t', rest, hvalue, hes, rfl⟩ := h
    obtain ⟨hkey, hvalueFits, hesFits⟩ := hfits
    -- The mapping is open after its first key.
    have hopening : (v.opened width).opening width = [] := if_neg (by omega)
    have hstays : (v.opened width).opened width = v.opened width := if_neg (by omega)
    rw [List.append_assoc, List.cons_append, List.append_assoc, List.append_assoc]
    refine runs_entryKey hkey hroom.lt hle hvalue.gapFollows ?_
    refine value.runsOn hvalue (hroom.mono (Nat.le_max_left _ _)) hvalueFits hopened ?_
    refine lineRuns_of_runs (hes.isLine hesFits) ?_
    refine es.runs hes (hroom.mono (Nat.le_max_right _ _)) hesFits (Int.le_of_eq hopened) ?_
    rw [hopening, hstays]
    simpa [Entries.tokens] using hnext

end

/-- A written document is cut into its tokens. -/
theorem Entries.tokens_of_writtenAt {es : Entries} (h : es.WrittenAt 0 t)
    (hroom : HasRoom 0 es.levels) (hfits : es.Fits) :
    Yaml.tokens t = .blockMappingStart :: (es.tokens ++ [.blockEnd, .streamEnd]) := by
  have hend := @Lexer.runs_end (.blockMappingStart :: es.tokens)
  have hnext : LineRuns 0 ([] ++ (Level.opening 0 {} ++ es.tokens)) (Level.opened 0 {}) []
      (.blockMappingStart :: (es.tokens ++ [.blockEnd, .streamEnd])) :=
    ⟨0, [], rfl, Nat.le_refl 0, ⟨startsToken_nil, rfl⟩, hend⟩
  have hruns := es.runs h hroom hfits (by decide) hnext
  have hlines := lineRuns_of_runs (h.isLine hfits) hruns
  rw [List.append_nil] at hlines
  exact tokens_of_lineRuns hlines

end StackCompiler.Yaml
