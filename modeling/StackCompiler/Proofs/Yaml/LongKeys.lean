import StackCompiler.Proofs.Yaml.RoundTrip

/-!
# Keys that are given up

A key whose colon is too far from where it began is given up, and what stands there instead of it
is no part of a mapping. So a sheet with such a key in a group is not read as anything
(`read_write_of_not_fits`).
-/

namespace StackCompiler.Yaml

open Lexer (Level Runs RunsOn keyToken maxKeyLength after)

variable {t text rest : List Char} {k width fuel : Nat} {ts all : List Token} {v : Level}
  {name key : String} {e : String × String} {es es' : List (String × String)}
  {before after' : Sheet}

/-! ## Tokens before a key that is given up -/

namespace Lexer

theorem interrupted_of_stale {l : Lexer} {p : PendingKey} (hpending : l.pending = [(0, p)])
    (hstale : l.isStale p) (f : Fault) : l.interrupted f = (.fault f :: l.tokens).reverse := by
  have hsettled : l.settled = l.count := by
    rw [settled, hpending]
    simp [hstale]
  rw [interrupted, hsettled, Nat.sub_self, List.drop_zero]

/-- The colon comes too late. -/
theorem run_stale {p : PendingKey} {i line : Nat} (hfar : maxKeyLength < i - p.index)
    (hle : v.indent ≤ k) (hrest : gapFollows rest) :
    run (fuel + 1) (after ts v false (.before (':' :: rest) i line k) [(0, p)]) =
      ts ++ [.fault .malformed] := by
  have hskip : (after ts v false (.before (':' :: rest) i line k) [(0, p)]).skipGap =
      after ts v false (.before (':' :: rest) i line k) [(0, p)] :=
    skipGap_blanks (n := 0) (startsToken_cons (by decide) (by decide) (by decide)) rfl
  have hstale : (after ts v false (.before (':' :: rest) i line k) [(0, p)]).isStale p :=
    Bool.or_eq_true_iff.2 (.inr (decide_eq_true hfar))
  have hinterrupted := @interrupted_of_stale
    (after ts v false (.before (':' :: rest) i line k) [(0, p)]) p rfl hstale .malformed
  have htokens : (.fault .malformed ::
      (after ts v false (.before (':' :: rest) i line k) [(0, p)]).tokens).reverse =
        ts ++ [.fault .malformed] := by simp [after]
  rw [← htokens, ← hinterrupted]
  cases hrequired : p.isRequired with
  | true =>
    refine run_of_approach_error ?_
    rw [approach, hskip, dropStale_required rfl hstale hrequired]
    rfl
  | false =>
    have happroach : (after ts v false (.before (':' :: rest) i line k) [(0, p)]).approach =
        .ok (after ts v false (.before (':' :: rest) i line k)) := by
      rw [approach, hskip, dropStale_stale rfl hstale hrequired]
      exact congrArg Except.ok (unwind_of_le hle)
    exact run_of_step_error happroach (List.cons_ne_nil _ _) (step_colon_error hrest)

/-- A simple key that is given up. -/
theorem runs_longKey (hsimple : isSimpleKey key.toList)
    (hlong : maxKeyLength < (keyForm key.toList).length) (hwidth : width + indentStep < lineWidth)
    (hle : v.indent ≤ width) (hrest : gapFollows rest) :
    Runs ts v width (keyForm key.toList ++ ':' :: rest)
      (ts ++ [keyToken key, .fault .malformed]) := by
  intro fuel i line l happroach hfuel
  rw [List.length_append, List.length_cons] at hfuel
  obtain ⟨fuel, rfl⟩ : ∃ fuel', fuel = fuel' + 2 := ⟨fuel - 2, by omega⟩
  have hcolumn : v.indent ≤ (width + (keyForm key.toList).length : Nat) := by omega
  have hstep := @step_simpleKey rest i line width key ts v hsimple hwidth hle hrest
  rw [unwind_of_le (l := after ts v true _) hle] at happroach
  rw [run_of_step happroach (by simp [after]) hstep, run_stale (by simpa using hlong) hcolumn hrest,
    List.append_assoc]
  rfl

end Lexer

/-- The tokens of a group up to a key that is given up. -/
def cutGroup (es : List (String × String)) (key : String) : List Token :=
  (if es.isEmpty then [] else .blockMappingStart :: es.flatMap entryTokens) ++
    [keyToken key, .fault .malformed]

/-- The tokens of a part up to a key that is given up. -/
def cutPart (name : String) (es : List (String × String)) (key : String) : List Token :=
  .key :: keyToken name :: .value :: cutGroup es key

theorem EntryWritten.exists_simple (h : EntryWritten width e t) (hlong : ¬KeyFits e.1) :
    ∃ value, t = List.replicate width ' ' ++ (keyForm e.1.toList ++ ':' :: value) ∧
      ∀ rest, gapFollows (value ++ rest) := by
  obtain ⟨key, value, hkey, ⟨w, -, rfl⟩, rfl⟩ := h
  obtain ⟨hsimple, -⟩ := Classical.not_imp.1 hlong
  cases hkey with
  | simple => exact ⟨' ' :: (w ++ ['\n']), by simp, fun _ => rfl⟩
  | complex hcomplex => simp [hsimple] at hcomplex

theorem lineRuns_longKey (h : EntryWritten indentStep e t) (hlong : ¬KeyFits e.1)
    (hle : v.indent ≤ indentStep) (text : List Char) :
    LineRuns indentStep ts v (t ++ text) (ts ++ [keyToken e.1, .fault .malformed]) := by
  obtain ⟨value, rfl, hgap⟩ := h.exists_simple hlong
  obtain ⟨hsimple, hlong⟩ := Classical.not_imp.1 hlong
  have hstarts := (@written_keyForm _ indentStep (by decide) hsimple).startsToken
  refine ⟨indentStep, keyForm e.1.toList ++ ':' :: (value ++ text), by simp, Nat.le_refl _,
    ⟨hstarts _, startsWithMark_blanks (by decide)⟩, ?_⟩
  exact Lexer.runs_longKey hsimple (Nat.not_le.1 hlong) (by decide) hle (hgap text)

theorem Part.Written.exists_lines (h : (Part.group es).Written t) (hne : es ≠ []) :
    ∃ texts, List.Forall₂ (EntryWritten indentStep) es texts ∧ t = '\n' :: texts.flatten := by
  cases h with
  | empty => exact absurd rfl hne
  | group hentries => exact ⟨_, hentries, rfl⟩

theorem forall₂_append_cons {α β : Type} {R : α → β → Prop} {x : α} {xs : List α} :
    ∀ {ws : List α} {ys : List β}, List.Forall₂ R (ws ++ x :: xs) ys → ∃ us y vs,
      ys = us ++ y :: vs ∧ List.Forall₂ R ws us ∧ R x y ∧ List.Forall₂ R xs vs
  | [], _, h => by
    obtain ⟨y, vs, hx, hxs, rfl⟩ := List.forall₂_cons_left_iff.1 h
    exact ⟨[], y, vs, rfl, .nil, hx, hxs⟩
  | w :: ws, _, h => by
    obtain ⟨u, ys, hw, hrest, rfl⟩ := List.forall₂_cons_left_iff.1 h
    obtain ⟨us, y, vs, rfl, hws, hx, hxs⟩ := forall₂_append_cons hrest
    exact ⟨u :: us, y, vs, rfl, .cons hw hws, hx, hxs⟩

/-- What follows the key of a group, up to the key that is given up. -/
theorem runsOn_longKey (h : (Part.group (es ++ e :: es')).Written t) (hfits : ∀ e ∈ es, KeyFits e.1)
    (hlong : ¬KeyFits e.1) (hindent : v.indent = 0) (text : List Char) :
    RunsOn false ts v (t ++ text) (ts ++ cutGroup es e.1) := by
  obtain ⟨texts, htexts, rfl⟩ := h.exists_lines (by simp)
  obtain ⟨us, u, vs, rfl, hes, he, -⟩ := forall₂_append_cons htexts
  have hlt : v.indent < indentStep := by simp [hindent, indentStep]
  have htext : '\n' :: (us ++ u :: vs).flatten ++ text =
      '\n' :: (us.flatten ++ (u ++ (vs.flatten ++ text))) := by simp
  rw [htext]
  cases es with
  | nil =>
    cases hes
    exact (lineRuns_longKey he hlong (Int.le_of_lt hlt) _).runsOn
  | cons e₀ es =>
    have hcut := @lineRuns_longKey u (ts ++ .blockMappingStart :: (e₀ :: es).flatMap entryTokens)
      (v.at indentStep) e he hlong (Int.le_refl _) (vs.flatten ++ text)
    refine (runs_group hes (List.cons_ne_nil _ _) hfits hlt ?_).runsOn
    simpa [cutGroup] using hcut

theorem lineRuns_longPart (h : PartWritten (name, .group (es ++ e :: es')) t)
    (hsimple : isSimpleKey name.toList) (hfit : KeyFits name) (hfits : ∀ e ∈ es, KeyFits e.1)
    (hlong : ¬KeyFits e.1) (hle : v.indent ≤ 0) (text : List Char) :
    LineRuns 0 ts v (t ++ text) (ts ++ (v.opening 0 ++ cutPart name es e.1)) := by
  obtain ⟨p, hp, rfl⟩ := h
  rw [List.append_assoc, List.cons_append]
  have hcut := @runsOn_longKey p (ts ++ (v.opening 0 ++ [.key, keyToken name, .value]))
    (v.opened 0) e es es' hp hfits hlong (Level.indent_opened hle) text
  refine runs_partKey hsimple hfit hle hp.gapFollows ?_
  simpa [cutPart] using hcut

/-- A written sheet is cut into its tokens up to the first key that is given up. -/
theorem tokens_of_longKey
    (h : Sheet.Written (before ++ (name, .group (es ++ e :: es')) :: after') t)
    (hsimple : ∀ e ∈ before, isSimpleKey e.1.toList) (hname : isSimpleKey name.toList)
    (hbefore : before.Fits) (hfit : KeyFits name) (hfits : ∀ e ∈ es, KeyFits e.1)
    (hlong : ¬KeyFits e.1) :
    tokens t = .blockMappingStart :: (before.flatMap partTokens ++ cutPart name es e.1) := by
  obtain ⟨texts, htexts, rfl⟩ := h
  obtain ⟨us, u, vs, rfl, hparts, hpart, -⟩ := forall₂_append_cons htexts
  rw [List.flatten_append, List.flatten_cons]
  refine tokens_of_lineRuns ?_
  cases before with
  | nil =>
    cases hparts
    exact lineRuns_longPart hpart hname hfit hfits hlong (by decide) vs.flatten
  | cons e₀ before =>
    have hcut := @lineRuns_longPart u (.blockMappingStart :: (e₀ :: before).flatMap partTokens)
      (Level.at 0 {}) name e es es' hpart hname hfit hfits hlong (Int.le_refl 0) vs.flatten
    refine runs_sheet hparts (List.cons_ne_nil _ _) hsimple hbefore ?_
    simpa [Level.opening, Level.at] using hcut

/-! ## Composing -/

namespace Composer

variable {c : Composer} {ns : List Node} {f : Fault}

theorem blockEntries_fault (acc : List (NodeId × NodeId)) :
    blockEntries acc (fuel + 1) (c.holding (.fault f :: ts) ns) = .error f := by
  rw [blockEntries]
  rfl

theorem blockEntries_text (acc : List (NodeId × NodeId)) :
    blockEntries acc (fuel + 1) (c.holding (keyToken key :: ts) ns) = .error .malformed := by
  rw [blockEntries]
  rfl

theorem blockEntries_value_error {acc : List (NodeId × NodeId)} {id : NodeId} {k : Composer}
    (hkey : blockPart fuel (c.holding ts ns) = .ok (id, k)) (hpeek : k.peek = .value)
    (hvalue : blockPart fuel k.skip = .error f) :
    blockEntries acc (fuel + 1) (c.holding (.key :: ts) ns) = .error f := by
  rw [blockEntries_key hkey hpeek, hvalue]

/-- A text alone is no entry, neither of a group nor of the sheet itself. -/
theorem blockEntries_cutPart (hdepth : c.depth < maxDepth) (acc : List (NodeId × NodeId))
    (hfuel : es.length + 6 ≤ fuel) :
    blockEntries acc fuel (c.holding (cutPart name es key) ns) = .error .malformed := by
  have hkey : ∀ fuel, blockPart (fuel + 2)
        (c.holding (keyToken name :: .value :: cutGroup es key) ns) =
      .ok (ns.length, c.holding (.value :: cutGroup es key) (ns ++ [textNode name])) :=
    fun _ => blockPart_text (isSimpleKey name.toList) name
  cases es with
  | nil =>
    obtain ⟨fuel, rfl⟩ : ∃ fuel', fuel = fuel' + 4 := ⟨fuel - 4, by omega⟩
    have hvalue := @blockPart_text c [.fault .malformed] (ns ++ [textNode name]) (fuel + 1)
      (isSimpleKey key.toList) key
    exact (blockEntries_cons (hkey _) rfl hvalue).trans (blockEntries_fault _)
  | cons e es =>
    obtain ⟨fuel, rfl⟩ : ∃ fuel', fuel = fuel' + 2 + (e :: es).length + 2 + 1 :=
      ⟨fuel - (e :: es).length - 5, by omega⟩
    have hentries := @blockEntries_group c.inside [keyToken key, .fault .malformed] (fuel + 2)
      (Nat.le_add_left 2 _) (e :: es) [] (ns ++ [textNode name] ++ [⟨.map, .map []⟩])
    rw [blockEntries_text] at hentries
    have hvalue := mapping_error hdepth hentries
    rw [← blockPart_mapping] at hvalue
    exact blockEntries_value_error (hkey _) rfl hvalue

theorem length_le_cutGroup (es : List (String × String)) (key : String) :
    es.length ≤ (cutGroup es key).length := by
  have hentries := length_entryTokens es
  cases es with
  | nil => exact Nat.zero_le _
  | cons e es =>
    simp only [cutGroup, List.isEmpty_cons, Bool.false_eq_true, if_false, List.length_append,
      List.length_cons] at hentries ⊢
    omega

end Composer

open Composer in
/-- The tokens up to a key that is given up make up no document. -/
theorem ofTokens?_cut (before : Sheet) : Document.ofTokens?
    (.blockMappingStart :: (before.flatMap partTokens ++ cutPart name es key)) =
      .error .malformed := by
  obtain ⟨hlength, hparts⟩ := length_tokens_le before
  obtain ⟨fuel, hfuel, hall, hes⟩ : ∃ fuel, (start (.blockMappingStart ::
      (before.flatMap partTokens ++ cutPart name es key))).fuel = fuel + before.length + 1 ∧
        (before.flatMap partTokens).length + 5 ≤ fuel ∧ es.length + 6 ≤ fuel := by
    refine ⟨(start (.blockMappingStart ::
      (before.flatMap partTokens ++ cutPart name es key))).fuel - before.length - 1, ?_⟩
    have hgroup := length_le_cutGroup es key
    simp only [Composer.fuel, start, cutPart, List.length_cons, List.length_append]
    omega
  have hentries := @blockEntries_sheet (start []).inside (cutPart name es key) fuel
    (by decide) before [] [⟨.map, .map []⟩] fun e he =>
      Nat.le_trans (Nat.add_le_add_right (hparts e he) 5) hall
  rw [blockEntries_cutPart (by decide) _ hes] at hentries
  rw [document_mapping hfuel rfl hentries]
  rfl

/-! ## Reading -/

theorem exists_first {α : Type} {p : α → Prop} : ∀ {xs : List α}, ¬(∀ x ∈ xs, p x) →
    ∃ ws x ys, xs = ws ++ x :: ys ∧ (∀ w ∈ ws, p w) ∧ ¬p x
  | [], h => absurd (fun _ hx => absurd hx List.not_mem_nil) h
  | x :: xs, h => by
    by_cases hx : p x
    · have hxs : ¬∀ y ∈ xs, p y := fun hxs => h (List.forall_mem_cons.2 ⟨hx, hxs⟩)
      obtain ⟨ws, y, ys, rfl, hws, hy⟩ := exists_first hxs
      exact ⟨x :: ws, y, ys, rfl, List.forall_mem_cons.2 ⟨hx, hws⟩, hy⟩
    · exact ⟨[], x, xs, rfl, fun _ h => absurd h List.not_mem_nil, hx⟩

/-- A sheet with a key in a group that is given up is not read. -/
theorem read_write_of_not_fits {sheet : Sheet} (hsimple : ∀ e ∈ sheet, isSimpleKey e.1.toList)
    (hnames : ∀ e ∈ sheet, KeyFits e.1) (hfits : ¬sheet.Fits) :
    read (write sheet.data) = .error .malformed := by
  obtain ⟨before, ⟨name, part⟩, after, rfl, hbefore, hpart⟩ := exists_first hfits
  have hfit : KeyFits name := hnames (name, part) (by simp)
  have hkeys : ¬∀ key ∈ part.keys, KeyFits key := fun hkeys => hpart ⟨hfit, hkeys⟩
  cases part with
  | text s => exact absurd (fun _ h => absurd h List.not_mem_nil) hkeys
  | group entries =>
    obtain ⟨es, e, es', rfl, hes, hlong⟩ := exists_first
      (fun hentries => hkeys (List.forall_mem_map.2 hentries) : ¬∀ e ∈ entries, KeyFits e.1)
    have hwritten := exists_written_write hsimple (by simp)
    have hread := read_eq (hwritten.chars hsimple)
    have hname : isSimpleKey name.toList := hsimple (name, .group (es ++ e :: es')) (by simp)
    rw [String.ofList_toList, readTokens, tokens_of_longKey hwritten
      (fun e he => hsimple e (List.mem_append_left _ he)) hname hbefore hfit hes hlong,
      ofTokens?_cut] at hread
    rw [hread]
    rfl

end StackCompiler.Yaml
