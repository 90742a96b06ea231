import Mathlib.Data.List.Infix

/-!
# Marks in texts

`afterLast?` gives what comes after the last occurrence of a mark in a text; there is nothing where
the mark does not occur (`afterLast?_eq_none_iff`). `beforeLast?` gives what comes before it, and
`afterFirst?` what comes after the first occurrence. A mark that has no separator in it occurs on one
side of each separator (`infix_of_infix_append_cons`).
-/

namespace StackCompiler.Text

/-- The text after the last occurrence of a mark. -/
def afterLast? (mark : List Char) : List Char → Option (List Char)
  | [] => none
  | c :: cs =>
    match afterLast? mark cs with
    | some after => some after
    | none => if mark.isPrefixOf (c :: cs) then some ((c :: cs).drop mark.length) else none

/-- The text before the last occurrence of a mark. -/
def beforeLast? (mark cs : List Char) : Option (List Char) :=
  (afterLast? mark cs).map fun after => cs.take (cs.length - (mark.length + after.length))

/-- The text after the first occurrence of a mark. -/
def afterFirst? (mark : List Char) : List Char → Option (List Char)
  | [] => none
  | c :: cs =>
    if mark.isPrefixOf (c :: cs) then some ((c :: cs).drop mark.length) else afterFirst? mark cs

variable {mark : List Char}

theorem afterLast?_eq_none_iff (hmark : mark ≠ []) : ∀ {cs : List Char},
    afterLast? mark cs = none ↔ ¬mark <:+: cs
  | [] => by simpa [afterLast?] using hmark
  | c :: cs => by
    have ih : afterLast? mark cs = none ↔ ¬mark <:+: cs := afterLast?_eq_none_iff hmark
    rw [afterLast?, List.infix_cons_iff]
    cases hcs : afterLast? mark cs with
    | some after =>
      rw [hcs] at ih
      have hpart : mark <:+: cs := by simpa using ih
      simp [hpart]
    | none =>
      rw [hcs] at ih
      simp [ih.1 rfl]

theorem not_infix_of_not_mem {d : Char} (hd : d ∈ mark) {cs : List Char} (h : d ∉ cs) :
    ¬mark <:+: cs := fun hpart => h (hpart.subset hd)

/-- A mark that holds a character farther behind than the text does is not in the text. -/
theorem not_infix_of_length_lt {d : Char} {xs ys before after : List Char} (hbefore : d ∉ before)
    (hafter : d ∉ after) (hlt : before.length < xs.length) :
    ¬xs ++ d :: ys <:+: before ++ d :: after := by
  rintro ⟨s, t, h⟩
  have hsplit : before ++ d :: after = s ++ xs ++ d :: (ys ++ t) := by
    rw [← h]
    simp
  have hstart : before = s ++ xs :=
    ((List.append_cons_inj_of_notMem hbefore hafter).1 hsplit).1
  rw [hstart, List.length_append] at hlt
  omega

/-- The mark does not occur again where it begins with a character that is found neither later in it
nor after it. -/
theorem not_infix_tail {d : Char} {ds after : List Char} (hds : d ∉ ds) (hafter : d ∉ after) :
    ¬d :: ds <:+: ds ++ after := by
  refine not_infix_of_not_mem (List.mem_cons_self ..) ?_
  rw [List.mem_append, not_or]
  exact ⟨hds, hafter⟩

theorem afterLast?_append_of_not_infix {d : Char} {ds after : List Char}
    (h : ¬d :: ds <:+: ds ++ after) :
    ∀ before : List Char, afterLast? (d :: ds) (before ++ (d :: ds) ++ after) = some after
  | [] => by
    have hnone := (afterLast?_eq_none_iff (List.cons_ne_nil _ _)).2 h
    simp [afterLast?, hnone]
  | c :: before => by
    rw [List.cons_append, List.cons_append, afterLast?, afterLast?_append_of_not_infix h before]

/-- The mark begins with a character that is found neither later in it nor after it. -/
theorem afterLast?_append {d : Char} (ds : List Char) {after : List Char} (hds : d ∉ ds)
    (hafter : d ∉ after) (before : List Char) :
    afterLast? (d :: ds) (before ++ (d :: ds) ++ after) = some after :=
  afterLast?_append_of_not_infix (not_infix_tail hds hafter) before

theorem beforeLast?_append_of_not_infix {d : Char} {ds after : List Char}
    (h : ¬d :: ds <:+: ds ++ after) (before : List Char) :
    beforeLast? (d :: ds) (before ++ (d :: ds) ++ after) = some before := by
  have hlength : (before ++ (d :: ds) ++ after).length -
      ((d :: ds).length + after.length) = before.length := by
    simp only [List.length_append]
    omega
  rw [beforeLast?, afterLast?_append_of_not_infix h, Option.map_some, hlength, List.append_assoc,
    List.take_left]

/-- The mark begins with a character that is not found before it. -/
theorem afterFirst?_append {d : Char} (ds after : List Char) : ∀ {before : List Char}, d ∉ before →
    afterFirst? (d :: ds) (before ++ (d :: ds) ++ after) = some after
  | [], _ => by simp [afterFirst?]
  | c :: before, h => by
    rw [List.mem_cons, not_or] at h
    have hstart : ¬(d :: ds).isPrefixOf (c :: (before ++ (d :: ds) ++ after)) := by
      simp [h.1]
    rw [List.cons_append, List.cons_append, afterFirst?, if_neg hstart,
      afterFirst?_append ds after h.2]

theorem prefix_of_prefix_append_cons {d : Char} (hd : d ∉ mark) (before : List Char)
    {after : List Char} (h : mark <+: before ++ d :: after) : mark <+: before := by
  have hconcat : before ++ [d] <+: before ++ d :: after := ⟨after, by simp⟩
  rcases List.prefix_or_prefix_of_prefix h hconcat with hmark | hmark
  · rcases List.prefix_concat_iff.1 hmark with rfl | hmark
    · exact absurd (List.mem_append_right _ (List.mem_singleton_self d)) hd
    · exact hmark
  · exact absurd (hmark.subset (List.mem_append_right _ (List.mem_singleton_self d))) hd

theorem infix_of_infix_append_cons {d : Char} (hd : d ∉ mark) {after : List Char} :
    ∀ {before : List Char}, mark <:+: before ++ d :: after → mark <:+: before ∨ mark <:+: after
  | [], h => by
    rcases List.infix_cons_iff.1 h with h | h
    · exact .inl (prefix_of_prefix_append_cons hd [] h).isInfix
    · exact .inr h
  | c :: before, h => by
    rcases List.infix_cons_iff.1 h with h | h
    · exact .inl (prefix_of_prefix_append_cons hd (c :: before) h).isInfix
    · exact (infix_of_infix_append_cons hd h).imp_left fun h => List.infix_cons h

/-- A mark does not begin where its first character is not found. -/
theorem infix_of_infix_append {d : Char} {ds cs : List Char} : ∀ {before : List Char},
    d ∉ before → d :: ds <:+: before ++ cs → d :: ds <:+: cs
  | [], _, h => h
  | c :: before, hd, h => by
    rw [List.mem_cons, not_or] at hd
    rcases List.infix_cons_iff.1 h with h | h
    · exact absurd (List.cons_prefix_cons.1 h).1 hd.1
    · exact infix_of_infix_append hd.2 h

end StackCompiler.Text
