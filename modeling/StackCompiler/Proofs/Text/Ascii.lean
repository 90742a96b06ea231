import StackCompiler.Proofs.Text.Order
import StackCompiler.Proofs.Text.Pattern

/-!
# ASCII names

The order of identifiers tells ASCII names apart, because swapping the case of an ASCII text twice
gives the text back. So a sorted list of things with distinct ASCII names depends on its items alone
(`sortById_eq_of_perm_of_isAscii`), and sorted names depend on which names there are
(`sortIds_eraseDups_eq`).
-/

namespace StackCompiler.Text

def IsAscii (s : String) : Prop := ∀ c ∈ s.toList, c.toNat < 128

instance (s : String) : Decidable (IsAscii s) :=
  decidable_of_iff (s.toList.all fun c => decide (c.toNat < 128)) (by simp [IsAscii])

/-! ## Swapping the case -/

/-- An ASCII character in the other case. -/
def swapAscii (c : Char) : Char :=
  if isUpper c then c.toLower else if isLower c then c.toUpper else c

theorem swapAscii_swapAscii {c : Char} (h : c.toNat < 128) : swapAscii (swapAscii c) = c := by
  have hall : ∀ n < 128, swapAscii (swapAscii (Char.ofNat n)) = Char.ofNat n := by decide +kernel
  simpa using hall c.toNat h

theorem swapIn_of_lt {c : Char} (h : c.toNat < 128) (endsCased : Bool) (after : List Char) :
    swapIn endsCased c after = [swapAscii c] := by
  have hsigma : c ≠ 'Σ' := by
    rintro rfl
    exact absurd h (by decide)
  simp only [swapIn, swapAscii, lowerIn, lowerChar, upperChar, hsigma, h, if_true, if_false]
  split_ifs <;> rfl

theorem swapCaseChars_eq_map {cs : List Char} (h : ∀ c ∈ cs, c.toNat < 128) :
    swapCaseChars cs = cs.map swapAscii := by
  suffices ∀ endsCased, mapInContext swapIn endsCased cs = cs.map swapAscii from this false
  induction cs with
  | nil => exact fun _ => rfl
  | cons c cs ih =>
    obtain ⟨hc, hcs⟩ := List.forall_mem_cons.1 h
    intro endsCased
    rw [mapInContext, swapIn_of_lt hc, ih hcs]
    rfl

theorem eq_of_swapCase_eq {s t : String} (hs : IsAscii s) (ht : IsAscii t)
    (h : swapCase s = swapCase t) : s = t := by
  have hchars : s.toList.map swapAscii = t.toList.map swapAscii := by
    rw [← swapCaseChars_eq_map hs, ← swapCaseChars_eq_map ht]
    exact String.ofList_injective h
  have hback : ∀ cs : List Char, (∀ c ∈ cs, c.toNat < 128) →
      (cs.map swapAscii).map swapAscii = cs := fun cs hcs => by
    rw [List.map_map]
    exact (List.map_congr_left fun c hc => swapAscii_swapAscii (hcs c hc)).trans (List.map_id cs)
  refine String.toList_injective ?_
  rw [← hback s.toList hs, hchars, hback t.toList ht]

/-- ASCII names have distinct keys. -/
theorem hasDistinctKeys_of_isAscii {names : List String} (h : ∀ name ∈ names, IsAscii name) :
    HasDistinctKeys names := fun a ha b hb hkey =>
  eq_of_swapCase_eq (h a ha) (h b hb) (congrArg Prod.snd hkey)

/-! ## Sorted lists -/

/-- Things with distinct ASCII names are sorted in one way. -/
theorem sortById_eq_of_perm_of_isAscii {α : Type} {key : α → String} {xs ys : List α}
    (h : xs.Perm ys) (hnodup : (xs.map key).Nodup) (hascii : ∀ x ∈ xs, IsAscii (key x)) :
    sortById key xs = sortById key ys :=
  sortById_eq_of_perm h hnodup (hasDistinctKeys_of_isAscii (List.forall_mem_map.2 hascii))

/-- Sorted ASCII names depend on which names there are. -/
theorem sortIds_eraseDups_eq {xs ys : List String} (h : ∀ x, x ∈ xs ↔ x ∈ ys)
    (hascii : ∀ x ∈ xs, IsAscii x) : sortIds xs.eraseDups = sortIds ys.eraseDups := by
  refine sortIds_eq_of_mem_iff (nodup_eraseDups xs) (nodup_eraseDups ys) (fun x => ?_)
    (hasDistinctKeys_of_isAscii fun x hx => hascii x (List.mem_eraseDups.1 hx))
  rw [List.mem_eraseDups, List.mem_eraseDups, h]

/-! ## Slugs -/

theorem isSlugChar_lt {c : Char} (h : isSlugChar c) : c.toNat < 128 :=
  Nat.lt_of_le_of_lt (toNat_of_isSlugChar h).2 (by decide)

theorem isAscii_of_isSlug {s : String} (h : isSlug s) : IsAscii s := by
  intro c hc
  rcases isSlugChar_or_eq_of_isSlug h hc with hc | rfl
  · exact isSlugChar_lt hc
  · decide

end StackCompiler.Text
