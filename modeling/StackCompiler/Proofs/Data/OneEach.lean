import Mathlib.Data.List.Forall2
import Mathlib.Data.List.Nodup

/-!
# One item for each subject

`OneEach R P bs` says that a list has one item for every subject that satisfies `P`, related to it
by `R`, and no other items. It holds of a list as soon as it holds of its parts, if no subject
belongs to two of them.
-/

namespace StackCompiler

variable {α β γ : Type} {R : α → β → Prop} {P Q : α → Prop}

/-- The items are those of distinct subjects, namely of all that satisfy `P`. -/
def OneEach (R : α → β → Prop) (P : α → Prop) (bs : List β) : Prop :=
  ∃ as : List α, as.Nodup ∧ (∀ a, a ∈ as ↔ P a) ∧ List.Forall₂ R as bs

namespace OneEach

theorem congr {bs : List β} (h : OneEach R P bs) (hPQ : ∀ a, P a ↔ Q a) : OneEach R Q bs := by
  obtain ⟨as, hnodup, hmem, hitems⟩ := h
  exact ⟨as, hnodup, fun a => (hmem a).trans (hPQ a), hitems⟩

theorem nil (h : ∀ a, ¬P a) : OneEach R P [] :=
  ⟨[], List.nodup_nil, fun a => by simpa using h a, .nil⟩

theorem singleton {a : α} {b : β} (hP : ∀ x, P x ↔ x = a) (h : R a b) : OneEach R P [b] :=
  ⟨[a], List.nodup_singleton a, fun x => by rw [hP, List.mem_singleton], .cons h .nil⟩

/-- One subject at most, according to a condition. -/
theorem of_cases {c : Prop} {a : α} {bs : List β} (hone : c → ∃ b, bs = [b] ∧ R a b)
    (hnone : ¬c → bs = []) : OneEach R (fun x => x = a ∧ c) bs := by
  by_cases hc : c
  · obtain ⟨b, rfl, h⟩ := hone hc
    exact .singleton (fun x => and_iff_left hc) h
  · rw [hnone hc]
    exact .nil fun x hx => hc hx.2

theorem append {bs cs : List β} (h : OneEach R P bs) (h' : OneEach R Q cs)
    (hdisjoint : ∀ a, P a → ¬Q a) : OneEach R (fun a => P a ∨ Q a) (bs ++ cs) := by
  obtain ⟨as, hnodup, hmem, hitems⟩ := h
  obtain ⟨as', hnodup', hmem', hitems'⟩ := h'
  refine ⟨as ++ as', List.nodup_append.2 ⟨hnodup, hnodup', ?_⟩, fun a => ?_,
    List.rel_append hitems hitems'⟩
  · rintro a ha a' ha' rfl
    exact hdisjoint a ((hmem a).1 ha) ((hmem' a).1 ha')
  · rw [List.mem_append, hmem, hmem']

/-- A list that is put together from a part for each of some items, by their positions from a first
one on. -/
theorem flatMap_zipIdx_from {P : Nat → γ → α → Prop} {f : γ × Nat → List β}
    (hdisjoint : ∀ i j x y a, P i x a → P j y a → i = j) : ∀ {xs : List γ} (n : Nat),
      (∀ i x, xs[i]? = some x → OneEach R (P (n + i) x) (f (x, n + i))) →
        OneEach R (fun a => ∃ i x, xs[i]? = some x ∧ P (n + i) x a) ((xs.zipIdx n).flatMap f)
  | [], _, _ => .nil (by simp)
  | x :: xs, n, h => by
    have htail : OneEach R (fun a => ∃ i y, xs[i]? = some y ∧ P (n + 1 + i) y a)
        ((xs.zipIdx (n + 1)).flatMap f) := by
      refine flatMap_zipIdx_from hdisjoint (n + 1) fun i y hy => ?_
      have hy' := h (i + 1) y hy
      rwa [← Nat.add_assoc, Nat.add_right_comm] at hy'
    rw [List.zipIdx_cons, List.flatMap_cons]
    refine ((h 0 x rfl).append htail ?_).congr fun a => ?_
    · rintro a ha ⟨i, y, -, hy⟩
      have heq := hdisjoint _ _ _ _ _ ha hy
      omega
    · constructor
      · rintro (ha | ⟨i, y, hy, ha⟩)
        · exact ⟨0, x, rfl, ha⟩
        · exact ⟨i + 1, y, hy, by rwa [← Nat.add_assoc, Nat.add_right_comm]⟩
      · rintro ⟨_ | i, y, hy, ha⟩
        · cases hy
          exact .inl ha
        · exact .inr ⟨i, y, hy, by rwa [← Nat.add_assoc, Nat.add_right_comm] at ha⟩

/-- A list that is put together from a part for each of some items. -/
theorem flatMap_zipIdx {P : Nat → γ → α → Prop} {f : γ × Nat → List β} {xs : List γ}
    (hdisjoint : ∀ i j x y a, P i x a → P j y a → i = j)
    (h : ∀ i x, xs[i]? = some x → OneEach R (P i x) (f (x, i))) :
    OneEach R (fun a => ∃ i x, xs[i]? = some x ∧ P i x a) (xs.zipIdx.flatMap f) := by
  have hstart := flatMap_zipIdx_from (R := R) (f := f) hdisjoint 0
    (fun i x hx => by rw [Nat.zero_add]; exact h i x hx)
  simpa only [Nat.zero_add] using hstart

theorem flatMap {P : Nat → γ → α → Prop} {f : γ → List β} {xs : List γ}
    (hdisjoint : ∀ i j x y a, P i x a → P j y a → i = j)
    (h : ∀ i x, xs[i]? = some x → OneEach R (P i x) (f x)) :
    OneEach R (fun a => ∃ i x, xs[i]? = some x ∧ P i x a) (xs.flatMap f) := by
  have hindexed := flatMap_zipIdx (f := fun e => f e.1) hdisjoint h
  rwa [← List.flatMap_map, List.zipIdx_map_fst] at hindexed

/-- A list has no items just where no subject satisfies `P`. -/
theorem eq_nil_iff {bs : List β} (h : OneEach R P bs) : bs = [] ↔ ∀ a, ¬P a := by
  obtain ⟨as, -, hmem, hitems⟩ := h
  constructor
  · rintro rfl a ha
    rw [List.forall₂_nil_right_iff.1 hitems] at hmem
    exact List.not_mem_nil ((hmem a).2 ha)
  · intro hnone
    have has : as = [] := List.eq_nil_iff_forall_not_mem.2 fun a ha => hnone a ((hmem a).1 ha)
    rw [has] at hitems
    exact List.forall₂_nil_left_iff.1 hitems

end OneEach
end StackCompiler
