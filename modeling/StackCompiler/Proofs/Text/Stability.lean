import StackCompiler.Proofs.Text.Order

/-!
# Ties

Sorting keeps the order of items that compare as equal and forgets all else of the order that they
had: two lists are sorted into one just where they have, for each key, the same items in the same
order (`sortIds_eq_sortIds_iff`). So sorted names depend on which names there are just where no two
of them have one key (`forall_perm_sortIds_eq_iff`).
-/

namespace StackCompiler.Text

section Stability

variable {α β : Type} {cmp : β → β → Ordering} [Std.TransCmp cmp] {key : α → β} {xs ys : List α}

/-- Items that compare as equal keep their order. -/
theorem filter_mergeSort_of_eq {p : α → Bool}
    (h : ∀ x, p x → ∀ y, p y → cmp (key x) (key y) = .eq) :
    (xs.mergeSort fun x y => (cmp (key x) (key y)).isLE).filter p = xs.filter p := by
  have hequal : (xs.filter p).Pairwise fun x y => (cmp (key x) (key y)).isLE := by
    refine List.pairwise_of_forall_mem_list fun x hx y hy => ?_
    rw [h x (List.mem_filter.1 hx).2 y (List.mem_filter.1 hy).2]
    rfl
  have hsub : (xs.filter p).Sublist (xs.mergeSort fun x y => (cmp (key x) (key y)).isLE) :=
    List.sublist_mergeSort (fun _ _ _ => Std.TransCmp.isLE_trans) (fun _ _ => isLE_or_isLE _ _)
      hequal List.filter_sublist
  have hsub' := hsub.filter p
  simp only [List.filter_filter, Bool.and_self] at hsub'
  exact (hsub'.eq_of_length ((List.mergeSort_perm xs _).filter p).length_eq.symm).symm

theorem mem_iff_of_filter_eq
    (h : ∀ k, xs.filter (fun x => cmp (key x) k = .eq) = ys.filter fun x => cmp (key x) k = .eq)
    (z : α) : z ∈ xs ↔ z ∈ ys := by
  have hself : cmp (key z) (key z) = .eq := Std.ReflCmp.compare_self
  have hz : ∀ zs : List α, z ∈ zs ↔ z ∈ zs.filter fun x => cmp (key x) (key z) = .eq :=
    fun zs => by rw [List.mem_filter, decide_eq_true_iff, and_iff_left hself]
  rw [hz, h, ← hz]

/-- Sorted lists are the same if, for each key, the items that compare as equal to it are. -/
theorem eq_of_pairwise_of_filter_eq : ∀ {xs ys : List α},
    xs.Pairwise (fun x y => (cmp (key x) (key y)).isLE) →
    ys.Pairwise (fun x y => (cmp (key x) (key y)).isLE) →
    (∀ k, xs.filter (fun x => cmp (key x) k = .eq) = ys.filter fun x => cmp (key x) k = .eq) →
    xs = ys
  | [], ys, _, _, h =>
    (List.eq_nil_iff_forall_not_mem.2 fun y hy =>
      List.not_mem_nil ((mem_iff_of_filter_eq h y).2 hy)).symm
  | x :: xs, [], _, _, h =>
    absurd ((mem_iff_of_filter_eq h x).1 List.mem_cons_self) List.not_mem_nil
  | x :: xs, y :: ys, hxs, hys, h => by
    rw [List.pairwise_cons] at hxs hys
    have hself : ∀ z, cmp (key z) (key z) = .eq := fun z => Std.ReflCmp.compare_self
    have hle : ∀ {u z : α} {zs : List α}, (∀ z ∈ zs, (cmp (key u) (key z)).isLE) → z ∈ u :: zs →
        (cmp (key u) (key z)).isLE := by
      intro u z zs hzs hz
      rcases List.mem_cons.1 hz with rfl | hz
      · rw [hself]
        rfl
      · exact hzs z hz
    -- the first items compare as equal, so that they come first among those of their key
    have heq : cmp (key y) (key x) = .eq := Std.OrientedCmp.isLE_antisymm
      (hle hys.1 ((mem_iff_of_filter_eq h x).1 List.mem_cons_self))
      (hle hxs.1 ((mem_iff_of_filter_eq h y).2 List.mem_cons_self))
    have hx := h (key x)
    rw [List.filter_cons, List.filter_cons, if_pos (decide_eq_true (hself x)),
      if_pos (decide_eq_true heq)] at hx
    obtain rfl : x = y := (List.cons.inj hx).1
    refine congrArg _ (eq_of_pairwise_of_filter_eq hxs.2 hys.2 fun k => ?_)
    have hk := h k
    rw [List.filter_cons, List.filter_cons] at hk
    split at hk
    · exact (List.cons.inj hk).2
    · exact hk

/-- Which items are left out does not matter for the order of the others. -/
theorem filter_mergeSort (p : α → Bool) :
    (xs.mergeSort fun x y => (cmp (key x) (key y)).isLE).filter p =
      (xs.filter p).mergeSort fun x y => (cmp (key x) (key y)).isLE := by
  have hsorted : ∀ zs : List α, (zs.mergeSort fun x y => (cmp (key x) (key y)).isLE).Pairwise
      fun x y => (cmp (key x) (key y)).isLE :=
    List.pairwise_mergeSort (fun _ _ _ => Std.TransCmp.isLE_trans) fun _ _ => isLE_or_isLE _ _
  refine eq_of_pairwise_of_filter_eq ((hsorted xs).filter p) (hsorted _) fun k => ?_
  have hclass : ∀ x, decide (cmp (key x) k = .eq) → ∀ y, decide (cmp (key y) k = .eq) →
      cmp (key x) (key y) = .eq := fun x hx y hy =>
    Std.TransCmp.eq_trans (of_decide_eq_true hx) (Std.OrientedCmp.eq_symm (of_decide_eq_true hy))
  rw [List.filter_comm, filter_mergeSort_of_eq hclass, filter_mergeSort_of_eq hclass,
    List.filter_comm]

end Stability

/-! ## Identifiers -/

variable {xs ys names : List String}

/-- Names of one key keep their order. -/
theorem filter_sortIds (k : String × String) (xs : List String) :
    (sortIds xs).filter (fun x => idKey x = k) = xs.filter fun x => idKey x = k :=
  filter_mergeSort_of_eq fun _ hx _ hy =>
    compareIds_eq_eq_iff.2 ((of_decide_eq_true hx).trans (of_decide_eq_true hy).symm)

/-- Names are sorted into one list just where those of each key come in one order. -/
theorem sortIds_eq_sortIds_iff : sortIds xs = sortIds ys ↔
    ∀ k, xs.filter (fun x => idKey x = k) = ys.filter fun y => idKey y = k := by
  constructor
  · intro h k
    rw [← filter_sortIds k xs, h, filter_sortIds]
  · intro h
    refine eq_of_pairwise_of_filter_eq (sortById_pairwise id xs) (sortById_pairwise id ys)
      fun z => ?_
    have hclass : ∀ zs : List String, (sortIds zs).filter (fun x => compareIds x z = .eq) =
        zs.filter fun x => idKey x = idKey z := fun zs => by
      simp only [compareIds_eq_eq_iff]
      exact filter_sortIds _ zs
    exact (hclass xs).trans ((h _).trans (hclass ys).symm)

/-- The order of names is forgotten just where no two of them have one key: two names of one key
can each be put first. -/
theorem forall_perm_sortIds_eq_iff :
    (∀ names', names'.Perm names → sortIds names' = sortIds names) ↔ HasDistinctKeys names := by
  constructor
  · intro h a ha b hb hkey
    have hfirst : ∀ x ∈ names, sortIds (x :: names.erase x) = sortIds names := fun x hx =>
      h _ (List.perm_cons_erase hx).symm
    have hsame := sortIds_eq_sortIds_iff.1 ((hfirst a ha).trans (hfirst b hb).symm) (idKey a)
    rw [List.filter_cons, List.filter_cons, if_pos (decide_eq_true rfl),
      if_pos (decide_eq_true hkey.symm)] at hsame
    exact (List.cons.inj hsame).1
  · intro hkeys names' hperm
    refine List.Perm.eq_of_pairwise (fun a b ha hb hab hba => ?_) (sortById_pairwise id names')
      (sortById_pairwise id names)
      ((sortById_perm id names').trans (hperm.trans (sortById_perm id names).symm))
    exact hkeys a (hperm.mem_iff.1 (mem_sortIds.1 ha)) b (mem_sortIds.1 hb)
      (compareIds_eq_eq_iff.1 (Std.OrientedCmp.isLE_antisymm hab hba))

theorem hasDistinctKeys_congr (h : ∀ x, x ∈ xs ↔ x ∈ ys) :
    HasDistinctKeys xs ↔ HasDistinctKeys ys := by
  simp only [HasDistinctKeys, h]

/-- The same for names that are each gathered once, in whichever order. -/
theorem forall_nodup_sortIds_eq_iff (hnodup : names.Nodup) :
    (∀ gathered : List String, gathered.Nodup → (∀ x, x ∈ gathered ↔ x ∈ names) →
      sortIds gathered = sortIds names) ↔ HasDistinctKeys names := by
  rw [← forall_perm_sortIds_eq_iff]
  constructor
  · intro h names' hperm
    exact h names' (hperm.nodup_iff.2 hnodup) fun _ => hperm.mem_iff
  · intro h gathered hgathered hmem
    exact h gathered ((List.perm_ext_iff_of_nodup hgathered hnodup).2 hmem)

end StackCompiler.Text
