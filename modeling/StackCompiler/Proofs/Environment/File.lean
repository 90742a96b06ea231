import Mathlib.Data.List.Infix
import StackCompiler.Environment.File

/-!
# Values that are read as they were written

An unquoted value in an environment file ends before a comment, and references in it are replaced. A
value without comments and references is read as it was written (`expand_unquotedValue`). Any other
value loses characters, if no variable has a value longer than one character
(`length_expand_unquotedValue_lt`).
-/

namespace StackCompiler

/-! ## Blanks at the ends -/

namespace Text

theorem length_dropWhileEnd_le (p : Char → Bool) (cs : List Char) :
    (dropWhileEnd p cs).length ≤ cs.length := by
  rw [dropWhileEnd, List.length_reverse, ← @List.length_reverse _ cs]
  exact (List.dropWhile_sublist p).length_le

theorem length_strip_le (cs : List Char) : (strip cs).length ≤ cs.length :=
  (length_dropWhileEnd_le isBlank _).trans (List.dropWhile_sublist isBlank).length_le

theorem strip_between {a b : Char} (ha : isBlank a = false) (hb : isBlank b = false)
    (cs : List Char) : strip (a :: (cs ++ [b])) = a :: (cs ++ [b]) := by
  have hstart : dropBlanks (a :: (cs ++ [b])) = a :: (cs ++ [b]) := by
    rw [dropBlanks, List.dropWhile_cons, ha]
    rfl
  have hreverse : (a :: (cs ++ [b])).reverse = b :: (a :: cs).reverse := by
    rw [← List.cons_append, List.reverse_append]
    rfl
  rw [strip, hstart, dropTrailingBlanks, dropWhileEnd, hreverse, List.dropWhile_cons, hb,
    ← List.cons_append]
  simp

end Text

namespace EnvironmentFile

/-- Nothing in a value is read as a comment or as a reference. -/
structure Literal (cs : List Char) : Prop where
  comment : ∀ c, Text.isBlank c → ¬[c, '#'] <:+: cs
  reference : ∀ rest, '$' :: '\x7b' :: rest <:+ cs → reference? rest = none

theorem literal_of_not_mem {cs : List Char} (hcomment : '#' ∉ cs) (hreference : '$' ∉ cs) :
    Literal cs where
  comment _ _ h := absurd (h.subset (List.mem_cons_of_mem _ (List.mem_singleton.2 rfl))) hcomment
  reference _ h := absurd (h.subset List.mem_cons_self) hreference

/-! ## Comments -/

section Comments

theorem beforeComment_eq_self : ∀ {cs : List Char},
    (∀ c, Text.isBlank c → ¬[c, '#'] <:+: cs) → beforeComment cs = cs
  | [], _ => rfl
  | [_], _ => rfl
  | c :: d :: cs, h => by
    have hhere : ¬(Text.isBlank c && d = '#') := by
      rw [Bool.and_eq_true, decide_eq_true_eq]
      rintro ⟨hblank, rfl⟩
      exact h c hblank ⟨[], cs, rfl⟩
    have hrest : beforeComment (d :: cs) = d :: cs :=
      beforeComment_eq_self fun e he hinfix => h e he (List.infix_cons hinfix)
    rw [beforeComment, if_neg hhere, hrest]

theorem length_beforeComment_le : ∀ cs : List Char, (beforeComment cs).length ≤ cs.length
  | [] => Nat.le_refl _
  | [_] => Nat.le_refl _
  | c :: d :: cs => by
    rw [beforeComment]
    split
    · exact Nat.zero_le _
    · exact Nat.succ_le_succ (length_beforeComment_le (d :: cs))

theorem length_beforeComment_lt {c : Char} (hblank : Text.isBlank c) : ∀ {cs : List Char},
    [c, '#'] <:+: cs → (beforeComment cs).length < cs.length
  | [], h => by simp at h
  | [d], h => absurd h.length_le (by simp)
  | d :: e :: cs, h => by
    rw [beforeComment]
    split
    · exact Nat.succ_pos _
    · rename_i hhere
      refine Nat.succ_lt_succ (length_beforeComment_lt hblank ?_)
      rcases List.infix_cons_iff.1 h with hprefix | hinfix
      · obtain ⟨rest, heq⟩ := hprefix
        cases heq
        exact absurd (by rw [hblank]; rfl) hhere
      · exact hinfix

end Comments

/-! ## References -/

theorem reference?_eq_some {cs rest : List Char} {piece : Piece}
    (h : reference? cs = some (piece, rest)) : ∃ name default, piece = .reference name default ∧
      default.toList.length + rest.length < cs.length := by
  unfold reference? at h
  rw [List.span_eq_takeWhile_dropWhile] at h
  have hlength : ∀ (p : Char → Bool) (cs : List Char),
      (cs.takeWhile p).length + (cs.dropWhile p).length = cs.length := fun p cs => by
    rw [← List.length_append, List.takeWhile_append_dropWhile]
  have hcs := hlength (fun c => c ≠ '\x7d' && c ≠ ':') cs
  split at h
  · rename_i heq
    rw [(Prod.mk.inj heq).2, List.length_cons] at hcs
    cases h
    exact ⟨_, _, rfl, by rw [String.toList_empty, List.length_nil]; omega⟩
  · rename_i inner heq
    rw [(Prod.mk.inj heq).2, List.length_cons, List.length_cons] at hcs
    have hinner := hlength (· ≠ '\x7d') inner
    rw [List.span_eq_takeWhile_dropWhile] at h
    split at h
    · rename_i hdefault
      rw [(Prod.mk.inj hdefault).1, (Prod.mk.inj hdefault).2, List.length_cons] at hinner
      cases h
      exact ⟨_, _, rfl, by rw [String.toList_ofList]; omega⟩
    · cases h
  · cases h

/-- A character stands for itself unless a reference starts with it. -/
theorem piecesFrom_cons (fuel : Nat) (c : Char) (cs : List Char) :
    (∃ inner piece rest, c :: cs = '$' :: '\x7b' :: inner ∧ reference? inner = some (piece, rest) ∧
      piecesFrom (fuel + 1) (c :: cs) = piece :: piecesFrom fuel rest) ∨
    (∀ inner, c :: cs = '$' :: '\x7b' :: inner → reference? inner = none) ∧
      piecesFrom (fuel + 1) (c :: cs) = .char c :: piecesFrom fuel cs := by
  by_cases hopen : ∃ inner, c :: cs = '$' :: '\x7b' :: inner
  · obtain ⟨inner, heq⟩ := hopen
    rw [heq, piecesFrom]
    cases hreference : reference? inner with
    | some found => exact .inl ⟨inner, found.1, found.2, rfl, hreference, rfl⟩
    | none =>
      cases heq
      refine .inr ⟨fun inner' heq' => ?_, rfl⟩
      cases heq'
      exact hreference
  · have hchar : piecesFrom (fuel + 1) (c :: cs) = .char c :: piecesFrom fuel cs := by
      rw [piecesFrom]
      rintro inner rfl rfl
      exact hopen ⟨inner, rfl⟩
    exact .inr ⟨fun inner heq => absurd ⟨inner, heq⟩ hopen, hchar⟩

/-- The characters that a text stands for. -/
def expansion (env : Environment) (bound : List (String × Option String)) (fuel : Nat)
    (cs : List Char) : List Char := (piecesFrom fuel cs).flatMap fun p => (p.text env bound).toList

theorem toList_expand (env : Environment) (bound : List (String × Option String)) (v : String) :
    (expand env bound v).toList = expansion env bound v.length v.toList := by
  rw [expand, String.toList_join, List.flatMap_map]
  rfl

section

variable {env : Environment} {bound : List (String × Option String)}

theorem expansion_char {fuel : Nat} {c : Char} {cs : List Char}
    (h : piecesFrom (fuel + 1) (c :: cs) = .char c :: piecesFrom fuel cs) :
    expansion env bound (fuel + 1) (c :: cs) = c :: expansion env bound fuel cs := by
  have htext : ((Piece.char c).text env bound).toList = [c] := by
    rw [Piece.text, Char.toString_eq_singleton, String.toList_singleton]
  rw [expansion, h, List.flatMap_cons, htext]
  rfl

theorem expansion_eq_self : ∀ {fuel : Nat} {cs : List Char}, cs.length ≤ fuel →
    (∀ rest, '$' :: '\x7b' :: rest <:+ cs → reference? rest = none) →
      expansion env bound fuel cs = cs
  | 0, [], _, _ | _ + 1, [], _, _ => rfl
  | fuel + 1, c :: cs, hfuel, h => by
    have hrest : expansion env bound fuel cs = cs := expansion_eq_self (Nat.le_of_succ_le_succ hfuel)
      fun rest hsuffix => h rest (hsuffix.trans (List.suffix_cons c cs))
    rcases piecesFrom_cons fuel c cs with ⟨inner, piece, rest, heq, hreference, -⟩ | ⟨-, hchar⟩
    · rw [h inner (heq ▸ List.suffix_rfl)] at hreference
      cases hreference
    · rw [expansion_char hchar, hrest]

/-- Variables have values of at most one character. -/
def Frugal (env : Environment) : Prop := ∀ name v, env.get? name = some v → v.toList.length ≤ 1

theorem Frugal.length_text_le (h : Frugal env) (name default : String) :
    ((Piece.reference name default).text env []).toList.length ≤ default.toList.length + 1 := by
  rw [Piece.text]
  cases hvalue : env.get? name with
  | some v => exact (h name v hvalue).trans (Nat.le_add_left ..)
  | none => exact Nat.le_succ _

/-- With short values a reference stands for less than its own text. -/
theorem Frugal.expansion_cases (h : Frugal env) : ∀ {fuel : Nat} {cs : List Char},
    cs.length ≤ fuel → (∀ rest, '$' :: '\x7b' :: rest <:+ cs → reference? rest = none) ∨
      (expansion env [] fuel cs).length < cs.length
  | 0, [], _ | _ + 1, [], _ =>
    .inl fun rest hsuffix => absurd hsuffix.length_le (by simp)
  | fuel + 1, c :: cs, hfuel => by
    have hle : ∀ {cs : List Char}, cs.length ≤ fuel →
        (expansion env [] fuel cs).length ≤ cs.length := fun hcs => by
      rcases h.expansion_cases hcs with hnone | hlt
      · rw [expansion_eq_self hcs hnone]
      · exact Nat.le_of_lt hlt
    rcases piecesFrom_cons fuel c cs with ⟨inner, piece, rest, heq, hreference, hpieces⟩ |
      ⟨hhere, hpieces⟩
    · obtain ⟨name, default, rfl, hlength⟩ := reference?_eq_some hreference
      have hinner : (c :: cs).length = inner.length + 2 := congrArg List.length heq
      have htext := h.length_text_le name default
      have hrest : (expansion env [] fuel rest).length ≤ rest.length := hle (by omega)
      right
      rw [expansion, hpieces, List.flatMap_cons, List.length_append]
      change _ + (expansion env [] fuel rest).length < _
      omega
    · rw [expansion_char hpieces]
      rcases h.expansion_cases (Nat.le_of_succ_le_succ hfuel) with hnone | hlt
      · left
        intro rest hsuffix
        rcases List.suffix_cons_iff.1 hsuffix with heq | hsuffix
        · exact hhere rest heq.symm
        · exact hnone rest hsuffix
      · exact .inr (Nat.succ_lt_succ hlt)

end

/-! ## Values -/

section

variable {env : Environment} {bound : List (String × Option String)} {cs : List Char}

theorem toList_expand_ofList (env : Environment) (bound : List (String × Option String))
    (cs : List Char) :
    (expand env bound (String.ofList cs)).toList = expansion env bound cs.length cs := by
  rw [toList_expand, String.length_ofList, String.toList_ofList]

theorem expand_unquotedValue (hstrip : Text.strip cs = cs) (h : Literal cs) :
    expand env bound (unquotedValue cs) = String.ofList cs := by
  rw [unquotedValue, beforeComment_eq_self h.comment, hstrip]
  refine String.toList_inj.1 ?_
  rw [toList_expand_ofList, expansion_eq_self (Nat.le_refl _) h.reference, String.toList_ofList]

theorem Frugal.length_expansion_le (henv : Frugal env) (cs : List Char) :
    (expansion env [] cs.length cs).length ≤ cs.length := by
  rcases henv.expansion_cases (Nat.le_refl cs.length) with hnone | hlt
  · rw [expansion_eq_self (Nat.le_refl _) hnone]
  · exact Nat.le_of_lt hlt

/-- What is read as a comment or as a reference shortens the value. -/
theorem length_expand_unquotedValue_lt (henv : Frugal env) (hstrip : Text.strip cs = cs)
    (h : ¬Literal cs) : (expand env [] (unquotedValue cs)).toList.length < cs.length := by
  rw [unquotedValue, toList_expand_ofList]
  by_cases hcomment : ∃ c, Text.isBlank c ∧ [c, '#'] <:+: cs
  · obtain ⟨c, hblank, hinfix⟩ := hcomment
    calc (expansion env [] _ (Text.strip (beforeComment cs))).length
        ≤ (Text.strip (beforeComment cs)).length := henv.length_expansion_le _
      _ ≤ (beforeComment cs).length := Text.length_strip_le _
      _ < cs.length := length_beforeComment_lt hblank hinfix
  · have hnone : ∀ c, Text.isBlank c → ¬[c, '#'] <:+: cs := fun c hblank hinfix =>
      hcomment ⟨c, hblank, hinfix⟩
    rw [beforeComment_eq_self hnone, hstrip]
    refine (henv.expansion_cases (Nat.le_refl cs.length)).resolve_left fun hreference => ?_
    exact h ⟨hnone, hreference⟩

end

/-! ## Lines -/

section

variable {env : Environment} {name : String} {cs : List Char}

/-- A text that is read as the name of a variable where an equals sign follows. -/
def IsVariable (name : String) : Prop := ∀ rest,
  Text.dropBlanks (name.toList ++ '=' :: rest) = name.toList ++ '=' :: rest ∧
    EnvironmentFile.name (dropExport (name.toList ++ '=' :: rest)) = .ok (some name, '=' :: rest)

theorem value_line (hcs : ∀ c ∈ cs, isBreak c = false) :
    value ('\x7b' :: (cs ++ ['\n'])) = .ok (unquotedValue ('\x7b' :: cs), ['\n']) := by
  have hall : ∀ c ∈ '\x7b' :: cs, !isBreak c := by
    refine List.forall_mem_cons.2 ⟨rfl, fun c hc => ?_⟩
    rw [hcs c hc]
    rfl
  have hspan : ('\x7b' :: (cs ++ ['\n'])).span (!isBreak ·) = ('\x7b' :: cs, ['\n']) := by
    rw [List.span_eq_takeWhile_dropWhile, ← List.cons_append, List.takeWhile_append_of_pos hall,
      List.dropWhile_append_of_pos hall]
    exact Prod.ext (List.append_nil _) rfl
  have hvalue : value ('\x7b' :: (cs ++ ['\n'])) =
      .ok (unquotedValue (('\x7b' :: (cs ++ ['\n'])).span (!isBreak ·)).1,
        (('\x7b' :: (cs ++ ['\n'])).span (!isBreak ·)).2) := rfl
  rw [hvalue, hspan]

/-- A line with a value in braces is one binding. -/
theorem binding_line (hname : IsVariable name) (hcs : ∀ c ∈ cs, isBreak c = false) :
    binding (name.toList ++ '=' :: '\x7b' :: (cs ++ ['\n'])) =
      .ok (some ⟨name, some (unquotedValue ('\x7b' :: cs))⟩, []) := by
  obtain ⟨hblanks, hread⟩ := hname ('\x7b' :: (cs ++ ['\n']))
  have hvalue : optionalValue (dropGaps ('=' :: '\x7b' :: (cs ++ ['\n']))) =
      .ok (some (unquotedValue ('\x7b' :: cs)), ['\n']) := by
    have hgaps : dropGaps ('=' :: '\x7b' :: (cs ++ ['\n'])) = '=' :: '\x7b' :: (cs ++ ['\n']) := rfl
    rw [hgaps, optionalValue, value_line hcs]
    rfl
  have hend : lineEnd ['\n'] = .ok ((), []) := rfl
  unfold binding
  rw [hblanks]
  cases hline : name.toList ++ '=' :: '\x7b' :: (cs ++ ['\n']) with
  | nil => simp at hline
  | cons c line =>
    rw [hline] at hread
    dsimp only
    rw [hread]
    dsimp only
    rw [hvalue]
    dsimp only
    rw [hend]
    rfl

theorem readFrom_binding {b : Binding} {c : Char} {line : List Char}
    (h : binding (c :: line) = .ok (some b, [])) (fuel : Nat) :
    readFrom (fuel + 1) (c :: line) = [b] := by
  unfold readFrom
  rw [h]
  cases fuel <;> rfl

theorem read_line (hname : IsVariable name) (hcs : ∀ c ∈ cs, isBreak c = false) :
    read (name ++ "=" ++ String.ofList ('\x7b' :: cs) ++ "\n") =
      [⟨name, some (unquotedValue ('\x7b' :: cs))⟩] := by
  have hline : (name ++ "=" ++ String.ofList ('\x7b' :: cs) ++ "\n").toList =
      name.toList ++ '=' :: '\x7b' :: (cs ++ ['\n']) := by
    simp
  have hbinding := binding_line hname hcs
  rw [read, ← String.length_toList, hline]
  cases hchars : name.toList ++ '=' :: '\x7b' :: (cs ++ ['\n']) with
  | nil => simp at hchars
  | cons c line =>
    exact readFrom_binding (hchars ▸ hbinding) line.length

theorem load_line (hname : IsVariable name) (hcs : ∀ c ∈ cs, isBreak c = false)
    (henabled : ¬isDisabled env) :
    load env (name ++ "=" ++ String.ofList ('\x7b' :: cs) ++ "\n") =
      env.inherit1 name (expand env [] (unquotedValue ('\x7b' :: cs))) := by
  rw [load, if_neg henabled, read_line hname hcs]
  change env.inherit [(name, some (expand env [] (unquotedValue ('\x7b' :: cs))))] = _
  rw [Environment.inherit, List.foldlM_cons]
  exact bind_pure _

end

end EnvironmentFile

end StackCompiler
