import StackCompiler.Proofs.Descriptor.Generation
import StackCompiler.Proofs.Text.Collation
import StackCompiler.Proofs.Text.Stability

/-!
# The order of entries

Entries are put in the order of their groups and names. The keys of entries are in a total order, and
the key of an entry has its group and its name: so groups and names come in one sequence, in whatever
order the entries are given (`Descriptor.sortEntries_displays`).
-/

namespace StackCompiler

open Text

namespace Descriptor

/-! ## Keys -/

namespace EntryKey

/-- The order of groups, those that are none last. -/
def compareGroups (k l : EntryKey) : Ordering :=
  (Ord.compare k.isUngrouped l.isUngrouped).then (k.group.compare l.group)

theorem compare_eq (k l : EntryKey) :
    k.compare l = (k.compareGroups l).then (k.name.compare l.name) :=
  (Ordering.then_assoc ..).symm

instance : Std.TransCmp compareGroups :=
  have : Std.TransCmp fun k l : EntryKey => k.group.compare l.group := transCmp_comap group
  inferInstanceAs (Std.TransCmp (compareLex (compareOn isUngrouped)
    fun k l => k.group.compare l.group))

instance : Std.TransCmp EntryKey.compare := by
  have : Std.TransCmp fun k l : EntryKey => k.name.compare l.name := transCmp_comap name
  have hlex : EntryKey.compare = compareLex compareGroups fun k l => k.name.compare l.name :=
    funext fun k => funext fun l => compare_eq k l
  rw [hlex]
  infer_instance

theorem compareGroups_eq_iff {k l : EntryKey} :
    k.compareGroups l = .eq ↔ k.isUngrouped = l.isUngrouped ∧ k.group = l.group := by
  rw [compareGroups, Ordering.then_eq_eq, Std.LawfulEqCmp.compare_eq_iff_eq,
    CollationKey.compare_eq_iff]

theorem compare_eq_iff {k l : EntryKey} : k.compare l = .eq ↔ k = l := by
  rw [compare_eq, Ordering.then_eq_eq, compareGroups_eq_iff, CollationKey.compare_eq_iff]
  cases k
  cases l
  simp only [mk.injEq, and_assoc]

theorem isLE_compareGroups {k l : EntryKey} (h : (k.compare l).isLE) :
    (k.compareGroups l).isLE := by
  rw [compare_eq, Ordering.isLE_then_iff_and] at h
  exact h.1

end EntryKey

theorem entryKey?_eq_some {group : Option String} {name : String} {k : EntryKey}
    (h : entryKey? group name = some k) : k.isUngrouped = group.isNone ∧
      collationKey? (group.getD "") = some k.group ∧ collationKey? name = some k.name := by
  obtain ⟨groupKey, hgroup, h⟩ := Option.bind_eq_some_iff.1 h
  obtain ⟨nameKey, hname, h⟩ := Option.bind_eq_some_iff.1 h
  cases h
  exact ⟨rfl, hgroup, hname⟩

theorem group_eq_iff {group group' : Option String} {name name' : String} {k k' : EntryKey}
    (h : entryKey? group name = some k) (h' : entryKey? group' name' = some k') :
    group = group' ↔ k.compareGroups k' = .eq := by
  obtain ⟨hnone, hgroup, -⟩ := entryKey?_eq_some h
  obtain ⟨hnone', hgroup', -⟩ := entryKey?_eq_some h'
  rw [EntryKey.compareGroups_eq_iff, hnone, hnone']
  constructor
  · rintro rfl
    exact ⟨rfl, Option.some_inj.1 (hgroup.symm.trans hgroup')⟩
  · rintro ⟨hsame, hkey⟩
    have htext := collationKey?_injective hgroup (hkey ▸ hgroup')
    cases group <;> cases group' <;> simp_all

theorem pair_eq_iff {group group' : Option String} {name name' : String} {k k' : EntryKey}
    (h : entryKey? group name = some k) (h' : entryKey? group' name' = some k') :
    group = group' ∧ name = name' ↔ k = k' := by
  constructor
  · rintro ⟨rfl, rfl⟩
    exact Option.some_inj.1 (h.symm.trans h')
  · rintro rfl
    refine ⟨(group_eq_iff h h').2 Std.ReflCmp.compare_self, ?_⟩
    exact collationKey?_injective (entryKey?_eq_some h).2.2 (entryKey?_eq_some h').2.2

/-! ## Sorting -/

section Sorting

variable {α : Type} {group : α → Option String} {name : α → String} {xs xs' ys ys' : List α}

/-- Both have keys, and that of the first is not after that of the second. -/
def InOrder (group : α → Option String) (name : α → String) (x y : α) : Prop :=
  ∃ k l, entryKey? (group x) (name x) = some k ∧ entryKey? (group y) (name y) = some l ∧
    (k.compare l).isLE

theorem InOrder.antisymm {x y : α} (h : InOrder group name x y) (h' : InOrder group name y x) :
    group x = group y ∧ name x = name y := by
  obtain ⟨k, l, hk, hl, hle⟩ := h
  obtain ⟨l', k', hl', hk', hle'⟩ := h'
  obtain rfl : k = k' := Option.some_inj.1 (hk.symm.trans hk')
  obtain rfl : l = l' := Option.some_inj.1 (hl.symm.trans hl')
  exact (pair_eq_iff hk hl).2 (EntryKey.compare_eq_iff.1 (Std.OrientedCmp.isLE_antisymm hle hle'))

theorem InOrder.group_eq_none {x y : α} (h : InOrder group name x y) (hx : group x = none) :
    group y = none := by
  obtain ⟨k, l, hk, hl, hle⟩ := h
  have hungrouped : ∀ b, (Ord.compare true b).isLE → b = true := by decide
  obtain ⟨hle, -⟩ := Ordering.isLE_then_iff_and.1 (EntryKey.isLE_compareGroups hle)
  rw [(entryKey?_eq_some hk).1, (entryKey?_eq_some hl).1, hx] at hle
  exact Option.isNone_iff_eq_none.1 (hungrouped _ hle)

theorem InOrder.group_eq_of_between {x y z : α} (hxz : InOrder group name x z)
    (hzy : InOrder group name z y) (h : group x = group y) : group z = group x := by
  obtain ⟨k, m, hk, hm, hkm⟩ := hxz
  obtain ⟨m', l, hm', hl, hml⟩ := hzy
  obtain rfl : m = m' := Option.some_inj.1 (hm.symm.trans hm')
  have hlk : (l.compareGroups k).isLE := by
    rw [(group_eq_iff hl hk).1 h.symm]
    rfl
  have hmk : (m.compareGroups k).isLE :=
    Std.TransCmp.isLE_trans (EntryKey.isLE_compareGroups hml) hlk
  exact (group_eq_iff hm hk).2
    (Std.OrientedCmp.isLE_antisymm hmk (EntryKey.isLE_compareGroups hkm))

/-- The items `xs` as they are displayed: in the order of their keys, items with one group and one
name in the order that they had, those without a group last and nothing between two of one group. -/
structure Displays (group : α → Option String) (name : α → String) (xs ys : List α) : Prop where
  perm : ys.Perm xs
  sorted : ys.Pairwise (InOrder group name)
  stable : ∀ g n, ys.filter (fun x => group x = g ∧ name x = n) =
    xs.filter fun x => group x = g ∧ name x = n
  ungrouped_last : ys.Pairwise fun x y => group x = none → group y = none
  together : ∀ before x between y after, ys = before ++ x :: (between ++ y :: after) →
    group x = group y → ∀ z ∈ between, group z = group x

/-- The key of an item, or an arbitrary one where there is none. -/
def keyOf (group : α → Option String) (name : α → String) (x : α) : EntryKey :=
  (entryKey? (group x) (name x)).getD ⟨false, ⟨[], ""⟩, ⟨[], ""⟩⟩

theorem eq_mergeSort_of_sortByName (h : sortByName group name xs = .ok ys) :
    (∀ x ∈ xs, entryKey? (group x) (name x) = some (keyOf group name x)) ∧
      ys = xs.mergeSort fun x y => ((keyOf group name x).compare (keyOf group name y)).isLE := by
  obtain ⟨keyed, hkeyed, hys⟩ := bind_eq_ok.1 h
  cases hys
  have hkeyOf : ∀ x key, entryKey? (group x) (name x) = some key → keyOf group name x = key := by
    intro x key hkey
    rw [keyOf, hkey]
    rfl
  have hitems : keyed.map id = xs.map fun x => (keyOf group name x, x) := by
    refine map_eq_map_of_mapM (fun x e he => ?_) hkeyed
    split at he
    · rename_i key hkey
      cases he
      rw [hkeyOf x key hkey]
      rfl
    · cases he
  rw [List.map_id] at hitems
  refine ⟨fun x hx => ?_, ?_⟩
  · obtain ⟨e, -, he⟩ := exists_mem_of_mapM_eq_ok hkeyed x hx
    split at he
    · rename_i key hkey
      rw [hkeyOf x key hkey, hkey]
    · cases he
  · have hsort : (xs.mergeSort fun x y =>
        ((keyOf group name x).compare (keyOf group name y)).isLE).map
          (fun x => (keyOf group name x, x)) =
        (xs.map fun x => (keyOf group name x, x)).mergeSort fun e e' => (e.1.compare e'.1).isLE :=
      List.map_mergeSort fun _ _ _ _ => rfl
    rw [hitems, ← hsort, List.map_map]
    exact List.map_id _

theorem sortByName_filter (h : sortByName group name xs = .ok ys) (p : α → Bool) :
    sortByName group name (xs.filter p) = .ok (ys.filter p) := by
  obtain ⟨hkeys, hys⟩ := eq_mergeSort_of_sortByName h
  have hshort : ∀ x ∈ xs.filter p,
      HasShortNumerals ((group x).getD "") ∧ HasShortNumerals (name x) := fun x hx =>
    entryKey?_isSome_iff.1 (Option.isSome_iff_exists.2 ⟨_, hkeys x (List.mem_filter.1 hx).1⟩)
  obtain ⟨zs, hzs⟩ := exists_sortByName hshort
  rw [hzs, (eq_mergeSort_of_sortByName hzs).2, hys, filter_mergeSort]

theorem displays_of_sortByName (h : sortByName group name xs = .ok ys) :
    Displays group name xs ys := by
  obtain ⟨hkeys, hys⟩ := eq_mergeSort_of_sortByName h
  have hperm : ys.Perm xs := perm_of_sortByName h
  have hsorted : ys.Pairwise (InOrder group name) := by
    have hkey : ∀ y ∈ ys, entryKey? (group y) (name y) = some (keyOf group name y) :=
      fun y hy => hkeys y (hperm.mem_iff.1 hy)
    have hle : ys.Pairwise fun x y =>
        ((keyOf group name x).compare (keyOf group name y)).isLE := by
      rw [hys]
      exact List.pairwise_mergeSort (fun _ _ _ => Std.TransCmp.isLE_trans)
        (fun _ _ => isLE_or_isLE _ _) xs
    exact hle.imp_of_mem fun hx hy hle => ⟨_, _, hkey _ hx, hkey _ hy, hle⟩
  exact {
    perm := hperm
    sorted := hsorted
    stable := fun g n => by
      rw [hys]
      refine filter_mergeSort_of_eq fun x hx y hy => ?_
      obtain ⟨hx, hx'⟩ := of_decide_eq_true hx
      obtain ⟨hy, hy'⟩ := of_decide_eq_true hy
      have hkey : keyOf group name x = keyOf group name y := by
        rw [keyOf, keyOf, hx, hx', hy, hy']
      exact EntryKey.compare_eq_iff.2 hkey
    ungrouped_last := hsorted.imp InOrder.group_eq_none
    together := fun before x between y after hsplit hgroup z hz => by
      rw [hsplit, List.pairwise_append, List.pairwise_cons, List.pairwise_append] at hsorted
      obtain ⟨-, ⟨hx, -, -, hbetween⟩, -⟩ := hsorted
      exact (hx z (List.mem_append_left _ hz)).group_eq_of_between
        (hbetween z hz y List.mem_cons_self) hgroup }

/-- The groups and names of displayed items depend on which ones there are. -/
theorem Displays.pairs_eq (h : Displays group name xs ys) (h' : Displays group name xs' ys')
    (hperm : xs'.Perm xs) :
    ys'.map (fun x => (group x, name x)) = ys.map fun x => (group x, name x) := by
  have hpairs : ∀ {zs : List α}, zs.Pairwise (InOrder group name) →
      (zs.map fun x => (group x, name x)).Pairwise (InOrder Prod.fst Prod.snd) :=
    fun hsorted => List.pairwise_map.2 hsorted
  refine List.Perm.eq_of_pairwise (fun p q _ _ hpq hqp => ?_) (hpairs h'.sorted) (hpairs h.sorted)
    ((h'.perm.trans (hperm.trans h.perm.symm)).map _)
  exact Prod.ext_iff.2 (hpq.antisymm hqp)

end Sorting

/-! ## Entries -/

theorem exists_sortEntries_of_hasShortRuns {entries : List Entry}
    (h : ∀ e ∈ entries, HasShortRuns (e.group.getD "") ∧ HasShortRuns e.name) :
    ∃ sorted, sortEntries entries = .ok sorted :=
  exists_sortByName fun e he => (h e he).imp hasShortRuns_iff_hasShortNumerals.1
    hasShortRuns_iff_hasShortNumerals.1

/-- Texts whose numerals can be read have keys, which are in a total order and never put a text
beside a number. Entries with such texts are displayed in that order; which groups and names come
when does not depend on the order in which they are given. Numerals that follow one text are in the
order of their values. -/
theorem entries_in_display_order :
    ((∀ s, HasShortRuns s → ∃ k, collationKey? s = some k) ∧
      (∀ s t k l, collationKey? s = some k → collationKey? t = some l →
        k.Comparable l ∧ (k = l → s = t)) ∧
      Std.TransCmp CollationKey.compare ∧ ∀ k l : CollationKey, k.compare l = .eq ↔ k = l) ∧
    (∀ entries : List Entry,
      (∀ e ∈ entries, HasShortRuns (e.group.getD "") ∧ HasShortRuns e.name) →
      ∃ sorted, sortEntries entries = .ok sorted ∧
        Displays (·.group) (·.name) entries sorted ∧
        ∀ entries', entries'.Perm entries → ∃ sorted', sortEntries entries' = .ok sorted' ∧
          sorted'.map (fun e => (e.group, e.name)) = sorted.map fun e => (e.group, e.name)) ∧
    ∀ p m n q r : String, (∀ c ∈ p.toList.getLast?, ¬isDigit c) → IsNumeral m → IsNumeral n →
      (∀ c ∈ q.toList.head?, ¬isDigit c) → (∀ c ∈ r.toList.head?, ¬isDigit c) →
      numeralValue m < numeralValue n → HasShortRuns (p ++ m ++ q) → HasShortRuns (p ++ n ++ r) →
      ∃ k l, collationKey? (p ++ m ++ q) = some k ∧ collationKey? (p ++ n ++ r) = some l ∧
        k.compare l = .lt := by
  have hkeys : ∀ s, HasShortRuns s → ∃ k, collationKey? s = some k := fun s h =>
    ⟨_, collationKey?_eq_some_iff.2 ⟨h, rfl⟩⟩
  refine ⟨⟨hkeys, fun s t k l hk hl => ⟨comparable_of_collationKey? hk hl, ?_⟩, inferInstance,
    fun _ _ => CollationKey.compare_eq_iff⟩, fun entries h => ?_, ?_⟩
  · rintro rfl
    exact collationKey?_injective hk hl
  · obtain ⟨sorted, hsorted⟩ := exists_sortEntries_of_hasShortRuns h
    refine ⟨sorted, hsorted, displays_of_sortByName hsorted, fun entries' hperm => ?_⟩
    obtain ⟨sorted', hsorted'⟩ := exists_sortEntries_of_hasShortRuns fun e he =>
      h e (hperm.mem_iff.1 he)
    exact ⟨sorted', hsorted', (displays_of_sortByName hsorted).pairs_eq
      (displays_of_sortByName hsorted') hperm⟩
  · intro p m n q r hp hm hn hq hr hlt hshort hshort'
    obtain ⟨k, hk⟩ := hkeys _ hshort
    obtain ⟨l, hl⟩ := hkeys _ hshort'
    exact ⟨k, l, hk, hl, compare_of_value_lt hp hm hn hq hr hlt hk hl⟩

/-- An entry with a name and a group. -/
def namedEntry (group : Option String) (name : String) : Entry where
  id := name
  name := name
  url := "http://localhost"
  isProtected := false
  access := .free
  group := group

def mixedEntries : List Entry :=
  [namedEntry none "Wiki", namedEntry (some "Tools") "app 10", namedEntry (some "") "Chat",
    namedEntry (some "Tools") "App 2"]

/-- Digits of another script, and a numeral that begins with a zero, are put in order as well. -/
theorem entries_in_display_order_mixed :
    (∃ sorted, sortEntries mixedEntries = .ok sorted ∧
      Displays (·.group) (·.name) mixedEntries sorted ∧
      ∃ sorted', sortEntries mixedEntries.reverse = .ok sorted' ∧
        sorted'.map (fun e => (e.group, e.name)) = sorted.map fun e => (e.group, e.name)) ∧
    ∃ k l, collationKey? ("App " ++ "٢" ++ "") = some k ∧
      collationKey? ("App " ++ "010" ++ " beta") = some l ∧ k.compare l = .lt := by
  obtain ⟨-, hsort, hnumerals⟩ := entries_in_display_order
  have hshort : ∀ s : String, s.toList.length ≤ maxDigits → HasShortRuns s :=
    fun _ hle _ hpart _ => Nat.le_trans hpart.length_le hle
  obtain ⟨sorted, hsorted, hdisplays, hreversed⟩ := hsort mixedEntries fun e he => by
    have hlengths : ∀ e ∈ mixedEntries, (e.group.getD "").toList.length ≤ maxDigits ∧
        e.name.toList.length ≤ maxDigits := by decide
    exact ⟨hshort _ (hlengths e he).1, hshort _ (hlengths e he).2⟩
  refine ⟨⟨sorted, hsorted, hdisplays, hreversed _ (List.reverse_perm _)⟩, ?_⟩
  have hnumeral : IsNumeral "٢" ∧ IsNumeral "010" :=
    ⟨⟨by decide, List.all_eq_true.1 (by decide)⟩, ⟨by decide, List.all_eq_true.1 (by decide)⟩⟩
  have hbeside : ∀ o : Option Char, o.all (!isDigit ·) → ∀ c ∈ o, ¬isDigit c := by
    rintro _ h c rfl
    simpa using h
  exact hnumerals "App " "٢" "010" "" " beta" (hbeside _ (by decide)) hnumeral.1 hnumeral.2
    (hbeside _ (by decide)) (hbeside _ (by decide)) (by decide) (hshort _ (by decide))
    (hshort _ (by decide))

end Descriptor
end StackCompiler
