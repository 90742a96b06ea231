import Mathlib.Data.List.Perm.Basic
import StackCompiler.Proofs.Data.Entries
import StackCompiler.Text.Order

/-!
# Sorted names

A list that is sorted by identifiers has the items that it had before. Where the keys tell the items
apart it depends on nothing else (`sortById_eq_of_perm`). A display name has a key where none of its
numerals is too long to be read (`collationKey?_isSome_iff`).
-/

namespace StackCompiler.Text

variable {α : Type}

theorem sortById_perm (key : α → String) (xs : List α) : (sortById key xs).Perm xs :=
  List.mergeSort_perm ..

@[simp] theorem mem_sortById {key : α → String} {xs : List α} {x : α} :
    x ∈ sortById key xs ↔ x ∈ xs := (sortById_perm key xs).mem_iff

@[simp] theorem mem_sortIds {xs : List String} {x : String} : x ∈ sortIds xs ↔ x ∈ xs :=
  mem_sortById

theorem map_sortById_perm {β : Type} (key : α → String) (f : α → β) (xs : List α) :
    ((sortById key xs).map f).Perm (xs.map f) := (sortById_perm key xs).map f

/-- Changes that keep the keys keep the order. -/
theorem map_sortById {β : Type} {key : α → String} {key' : β → String} {f : α → β} {xs : List α}
    (h : ∀ x ∈ xs, key' (f x) = key x) : (sortById key xs).map f = sortById key' (xs.map f) := by
  refine List.map_mergeSort fun x hx y hy => ?_
  rw [h x hx, h y hy]

/-! ## Comparing identifiers -/

theorem isLE_or_isLE {cmp : α → α → Ordering} [Std.OrientedCmp cmp] (a b : α) :
    ((cmp a b).isLE || (cmp b a).isLE) = true := by
  by_cases h : (cmp a b).isLE
  · rw [h, Bool.true_or]
  · rw [Std.OrientedCmp.lt_of_not_isLE h, Ordering.isLE_lt, Bool.or_true]

instance : Std.TransCmp compareIds :=
  inferInstanceAs (Std.TransCmp (compareLex (compareOn fun s => (idKey s).1)
    (compareOn fun s => (idKey s).2)))

theorem compareIds_eq_eq_iff {a b : String} : compareIds a b = .eq ↔ idKey a = idKey b := by
  rw [compareIds, Ordering.then_eq_eq, Std.LawfulEqCmp.compare_eq_iff_eq,
    Std.LawfulEqCmp.compare_eq_iff_eq, Prod.ext_iff]

/-- A sorted list is in the order of its keys. -/
theorem sortById_pairwise (key : α → String) (xs : List α) :
    (sortById key xs).Pairwise fun x y => (compareIds (key x) (key y)).isLE :=
  List.pairwise_mergeSort (fun _ _ _ => Std.TransCmp.isLE_trans) (fun _ _ => isLE_or_isLE _ _) xs

theorem sortById_of_pairwise {key : α → String} {xs : List α}
    (h : xs.Pairwise fun x y => (compareIds (key x) (key y)).isLE) : sortById key xs = xs :=
  List.mergeSort_of_pairwise h

/-! ## Keys that tell names apart -/

/-- No two of the names have one key. -/
def HasDistinctKeys (names : List String) : Prop :=
  ∀ a ∈ names, ∀ b ∈ names, idKey a = idKey b → a = b

instance (names : List String) : Decidable (HasDistinctKeys names) :=
  inferInstanceAs (Decidable (∀ a ∈ names, ∀ b ∈ names, idKey a = idKey b → a = b))

/-- Things with distinct names are sorted in one way where no two names have one key. -/
theorem sortById_eq_of_perm {key : α → String} {xs ys : List α} (h : xs.Perm ys)
    (hnodup : (xs.map key).Nodup) (hkeys : HasDistinctKeys (xs.map key)) :
    sortById key xs = sortById key ys := by
  refine List.Perm.eq_of_pairwise (fun x y hx hy hxy hyx => ?_) (sortById_pairwise key xs)
    (sortById_pairwise key ys)
    ((sortById_perm key xs).trans (h.trans (sortById_perm key ys).symm))
  rw [mem_sortById] at hx hy
  have hy' := h.mem_iff.2 hy
  exact List.inj_on_of_nodup_map hnodup hx hy' (hkeys _ (List.mem_map_of_mem hx) _
    (List.mem_map_of_mem hy') (compareIds_eq_eq_iff.1 (Std.OrientedCmp.isLE_antisymm hxy hyx)))

/-- Sorted names depend on which names there are where no two have one key. -/
theorem sortIds_eq_of_mem_iff {xs ys : List String} (hxs : xs.Nodup) (hys : ys.Nodup)
    (h : ∀ x, x ∈ xs ↔ x ∈ ys) (hkeys : HasDistinctKeys xs) : sortIds xs = sortIds ys := by
  refine sortById_eq_of_perm ((List.perm_ext_iff_of_nodup hxs hys).2 h) ?_ ?_
  · rw [List.map_id]
    exact hxs
  · rw [List.map_id]
    exact hkeys

theorem sortPlain_perm (xs : List String) : (sortPlain xs).Perm xs := List.mergeSort_perm ..

@[simp] theorem mem_sortPlain {xs : List String} {x : String} : x ∈ sortPlain xs ↔ x ∈ xs :=
  (sortPlain_perm xs).mem_iff

/-! ## Numerals in display names -/

/-- The stretches of a text that is cut at digits make up the text. -/
theorem cutAtDigits_append : ∀ cs : List Char,
    (cutAtDigits cs).1 ++ (cutAtDigits cs).2.flatMap (fun p => p.1 ++ p.2) = cs
  | [] => rfl
  | c :: cs => by
    have ih := cutAtDigits_append cs
    rcases hcut : cutAtDigits cs with ⟨plain, rest⟩
    rw [hcut] at ih
    rw [cutAtDigits, hcut]
    dsimp only at ih ⊢
    split
    · split
      · simpa using ih
      · simpa using ih
    · simpa using ih

theorem isDigit_of_mem_cutAtDigits : ∀ {cs : List Char} {p : List Char × List Char},
    p ∈ (cutAtDigits cs).2 → ∀ c ∈ p.1, isDigit c
  | [], _, h => absurd h List.not_mem_nil
  | c :: cs, p, h => by
    have ih : ∀ p ∈ (cutAtDigits cs).2, ∀ c ∈ p.1, isDigit c :=
      fun _ => isDigit_of_mem_cutAtDigits
    rcases hcut : cutAtDigits cs with ⟨plain, rest⟩
    rw [hcut] at ih
    rw [cutAtDigits, hcut] at h
    dsimp only at ih h
    split at h
    · rename_i hc
      split at h
      · rename_i digits tail rest'
        rcases List.mem_cons.1 h with rfl | h
        · exact List.forall_mem_cons.2 ⟨hc, ih (digits, tail) (List.mem_cons_self ..)⟩
        · exact ih p (List.mem_cons_of_mem _ h)
      · rcases List.mem_cons.1 h with rfl | h
        · simpa using hc
        · exact ih p h
    · exact ih p h

theorem infix_of_mem_cutAtDigits {cs : List Char} {p : List Char × List Char}
    (h : p ∈ (cutAtDigits cs).2) : p.1 <:+: cs := by
  obtain ⟨before, after, hsplit⟩ := List.append_of_mem h
  refine ⟨(cutAtDigits cs).1 ++ before.flatMap (fun p => p.1 ++ p.2),
    p.2 ++ after.flatMap (fun p => p.1 ++ p.2), ?_⟩
  conv_rhs => rw [← cutAtDigits_append cs, hsplit]
  simp

/-- A text that begins with digits is cut so that they stay together. -/
theorem exists_run_of_prefix {cs ds : List Char} (hds : ds ≠ []) (hstart : ds <+: cs)
    (hdigits : ∀ c ∈ ds, isDigit c) :
    ∃ run tail rest, cutAtDigits cs = ([], (run, tail) :: rest) ∧ ds.length ≤ run.length := by
  induction cs generalizing ds with
  | nil => exact absurd (List.prefix_nil.1 hstart) hds
  | cons c cs ih =>
    obtain ⟨d, ds, rfl⟩ := List.exists_cons_of_ne_nil hds
    obtain ⟨rfl, htail⟩ := List.cons_prefix_cons.1 hstart
    obtain ⟨hd, hdigits⟩ := List.forall_mem_cons.1 hdigits
    rw [cutAtDigits]
    by_cases hnil : ds = []
    · subst hnil
      dsimp only
      rw [if_pos hd]
      split
      · exact ⟨_, _, _, rfl, by simp⟩
      · exact ⟨_, _, _, rfl, by simp⟩
    · obtain ⟨run, tail, rest, hcut, hlength⟩ := ih hnil htail hdigits
      rw [hcut]
      dsimp only
      rw [if_pos hd]
      exact ⟨d :: run, tail, rest, rfl, Nat.succ_le_succ hlength⟩

/-- Any digits of a text are part of a stretch of digits. -/
theorem exists_run_of_infix {cs ds : List Char} (hds : ds ≠ []) (hpart : ds <:+: cs)
    (hdigits : ∀ c ∈ ds, isDigit c) : ∃ p ∈ (cutAtDigits cs).2, ds.length ≤ p.1.length := by
  induction cs with
  | nil => exact absurd (List.infix_nil.1 hpart) hds
  | cons c cs ih =>
    rcases List.infix_cons_iff.1 hpart with hstart | hpart
    · obtain ⟨run, tail, rest, hcut, hlength⟩ := exists_run_of_prefix hds hstart hdigits
      rw [hcut]
      exact ⟨(run, tail), List.mem_cons_self .., hlength⟩
    · obtain ⟨p, hp, hlength⟩ := ih hpart
      rcases hcut : cutAtDigits cs with ⟨plain, rest⟩
      rw [hcut] at hp
      rw [cutAtDigits, hcut]
      dsimp only at hp ⊢
      split
      · split
        · rename_i digits tail rest'
          rcases List.mem_cons.1 hp with rfl | hp
          · exact ⟨(c :: digits, tail), List.mem_cons_self .., Nat.le_succ_of_le hlength⟩
          · exact ⟨p, List.mem_cons_of_mem _ hp, hlength⟩
        · exact ⟨p, List.mem_cons_of_mem _ hp, hlength⟩
      · exact ⟨p, hp, hlength⟩

/-- Digits in a row are at most so many just where no stretch of digits has more. -/
theorem forall_infix_length_le_iff {cs : List Char} {n : Nat} :
    (∀ digits, digits <:+: cs → (∀ c ∈ digits, isDigit c) → digits.length ≤ n) ↔
      ∀ p ∈ (cutAtDigits cs).2, p.1.length ≤ n := by
  constructor
  · intro h p hp
    exact h p.1 (infix_of_mem_cutAtDigits hp) (isDigit_of_mem_cutAtDigits hp)
  · intro h digits hpart hdigits
    by_cases hnil : digits = []
    · rw [hnil]
      exact Nat.zero_le _
    · obtain ⟨p, hp, hlength⟩ := exists_run_of_infix hnil hpart hdigits
      exact Nat.le_trans hlength (h p hp)

/-- No numeral in the folded text is too long to be read. -/
def HasShortNumerals (s : String) : Prop :=
  ∀ digits, digits <:+: foldChars s.toList → (∀ c ∈ digits, isDigit c) → digits.length ≤ maxDigits

theorem hasShortNumerals_of_length_le {s : String} (h : (foldChars s.toList).length ≤ maxDigits) :
    HasShortNumerals s := fun _ hpart _ => Nat.le_trans hpart.length_le h

theorem hasShortNumerals_iff {s : String} :
    HasShortNumerals s ↔ ∀ p ∈ (cutAtDigits (foldChars s.toList)).2, p.1.length ≤ maxDigits :=
  forall_infix_length_le_iff

/-- A display name has a key just where all its numerals can be read. -/
theorem collationKey?_isSome_iff {s : String} :
    (collationKey? s).isSome ↔ HasShortNumerals s := by
  rw [hasShortNumerals_iff]
  unfold collationKey?
  dsimp only
  split
  · rename_i hlong
    obtain ⟨p, hp, hlength⟩ := List.any_eq_true.1 hlong
    refine iff_of_false Bool.false_ne_true fun h => ?_
    exact absurd (of_decide_eq_true hlength) (Nat.not_lt.2 (h p hp))
  · rename_i hshort
    refine iff_of_true rfl fun p hp => ?_
    by_contra hlong
    exact hshort (List.any_eq_true.2 ⟨p, hp, decide_eq_true (Nat.lt_of_not_le hlong)⟩)

end StackCompiler.Text
