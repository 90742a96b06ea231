import Mathlib.Data.List.Nodup
import StackCompiler.Json.Basic

/-!
# Lists with keys

In a list whose items have distinct keys each item is found under its key. `dedupEntries` makes the
keys of any list of entries distinct.
-/

namespace StackCompiler

variable {α : Type}

/-! ## Finding items -/

theorem find?_eq_some_of_nodup {κ : Type} [DecidableEq κ] {key : α → κ} : ∀ {xs : List α},
    (xs.map key).Nodup → ∀ {x}, x ∈ xs → xs.find? (key · == key x) = some x
  | [], _, _, h => absurd h List.not_mem_nil
  | y :: ys, hnodup, x, hx => by
    obtain ⟨hy, hys⟩ := List.nodup_cons.1 hnodup
    rcases List.mem_cons.1 hx with rfl | hx
    · exact List.find?_cons_of_pos (beq_self_eq_true (key x))
    · have hne : key y ≠ key x := fun heq => hy (heq ▸ List.mem_map_of_mem hx)
      rw [List.find?_cons_of_neg (by simpa using hne)]
      exact find?_eq_some_of_nodup hys hx

theorem lookup_eq_some_of_nodup {κ : Type} [BEq κ] [LawfulBEq κ] : ∀ {entries : List (κ × α)},
    (entries.map (·.1)).Nodup → ∀ {k v}, (k, v) ∈ entries → entries.lookup k = some v
  | [], _, _, _, h => absurd h List.not_mem_nil
  | (k', v') :: entries, hnodup, k, v, h => by
    obtain ⟨hk', hentries⟩ := List.nodup_cons.1 hnodup
    rcases List.mem_cons.1 h with heq | hmem
    · cases heq
      rw [List.lookup_cons, beq_self_eq_true]
    · have hne : k ≠ k' := by
        rintro rfl
        exact hk' (List.mem_map.2 ⟨(k, v), hmem, rfl⟩)
      rw [List.lookup_cons, beq_eq_false_iff_ne.2 hne]
      exact lookup_eq_some_of_nodup hentries hmem

theorem mem_of_lookup_eq_some {κ : Type} [BEq κ] [LawfulBEq κ] : ∀ {entries : List (κ × α)} {k v},
    entries.lookup k = some v → (k, v) ∈ entries
  | [], _, _, h => by cases h
  | (k', v') :: entries, k, v, h => by
    rw [List.lookup_cons] at h
    split at h
    · rename_i heq
      cases h
      rw [beq_iff_eq.1 heq]
      exact List.mem_cons_self ..
    · exact List.mem_cons_of_mem _ (mem_of_lookup_eq_some h)

/-- A lookup among entries whose values were changed. -/
theorem lookup_map_snd {β κ : Type} [BEq κ] {f : α → β} {k : κ} : ∀ {entries : List (κ × α)},
    (entries.map fun e => (e.1, f e.2)).lookup k = (entries.lookup k).map f
  | [] => rfl
  | (k', v) :: entries => by
    rw [List.map_cons, List.lookup_cons, List.lookup_cons, lookup_map_snd]
    cases k == k' <;> rfl

/-- What is found among distinct keys does not depend on the order of the entries. -/
theorem lookup_eq_of_perm {κ : Type} [BEq κ] [LawfulBEq κ] {entries entries' : List (κ × α)}
    (hnodup : (entries.map (·.1)).Nodup) (hperm : entries'.Perm entries) (k : κ) :
    entries'.lookup k = entries.lookup k := by
  refine Option.ext fun v => ⟨fun h => ?_, fun h => ?_⟩
  · exact lookup_eq_some_of_nodup hnodup (hperm.mem_iff.1 (mem_of_lookup_eq_some h))
  · exact lookup_eq_some_of_nodup ((hperm.map _).nodup_iff.2 hnodup)
      (hperm.mem_iff.2 (mem_of_lookup_eq_some h))

/-! ## Each key once -/

section Entries

variable {κ : Type} [BEq κ] [LawfulBEq κ]

omit [LawfulBEq κ] in
theorem setEntry_nil (key : κ) (value : α) : setEntry key value [] = [(key, value)] := rfl

omit [LawfulBEq κ] in
theorem setEntry_cons (key k : κ) (value v : α) (entries : List (κ × α)) :
    setEntry key value ((k, v) :: entries) =
      if k == key then (k, value) :: entries else (k, v) :: setEntry key value entries := rfl

theorem mem_keys_setEntry {key k : κ} {value : α} : ∀ {entries : List (κ × α)},
    k ∈ (setEntry key value entries).map (·.1) ↔ k = key ∨ k ∈ entries.map (·.1)
  | [] => by simp [setEntry_nil]
  | (k', v) :: entries => by
    rw [setEntry_cons]
    split
    · rename_i h
      rw [beq_iff_eq] at h
      simp [h]
    · rw [List.map_cons, List.mem_cons, mem_keys_setEntry, List.map_cons, List.mem_cons]
      exact or_left_comm

theorem keys_nodup_setEntry {key : κ} {value : α} : ∀ {entries : List (κ × α)},
    (entries.map (·.1)).Nodup → ((setEntry key value entries).map (·.1)).Nodup
  | [], _ => by simp [setEntry_nil]
  | (k, v) :: entries, h => by
    obtain ⟨hk, hentries⟩ := List.nodup_cons.1 h
    rw [setEntry_cons]
    split
    · exact h
    · rename_i hne
      refine List.nodup_cons.2 ⟨?_, keys_nodup_setEntry hentries⟩
      rw [mem_keys_setEntry]
      rintro (rfl | hmem)
      · exact hne (beq_self_eq_true _)
      · exact hk hmem

omit [LawfulBEq κ] in
theorem mem_setEntry {key : κ} {value : α} : ∀ {entries : List (κ × α)} {e : κ × α},
    e ∈ setEntry key value entries → e.2 = value ∨ e ∈ entries
  | [], e, h => .inl (by rw [List.mem_singleton.1 h])
  | (k, v) :: entries, e, h => by
    rw [setEntry_cons] at h
    split at h
    · rcases List.mem_cons.1 h with rfl | hmem
      · exact .inl rfl
      · exact .inr (List.mem_cons_of_mem _ hmem)
    · rcases List.mem_cons.1 h with rfl | hmem
      · exact .inr (List.mem_cons_self ..)
      · exact (mem_setEntry hmem).imp_right (List.mem_cons_of_mem _)

theorem lookup_setEntry_self {key : κ} {value : α} : ∀ {entries : List (κ × α)},
    (setEntry key value entries).lookup key = some value
  | [] => by rw [setEntry_nil, List.lookup_cons, beq_self_eq_true]
  | (k, v) :: entries => by
    rw [setEntry_cons]
    split
    · rename_i h
      rw [List.lookup_cons, BEq.comm, h]
    · rename_i h
      rw [List.lookup_cons, BEq.comm, Bool.eq_false_iff.2 h, lookup_setEntry_self]

theorem lookup_setEntry_of_ne {key k : κ} {value : α} (hne : k ≠ key) :
    ∀ {entries : List (κ × α)}, (setEntry key value entries).lookup k = entries.lookup k
  | [] => by rw [setEntry_nil, List.lookup_cons, beq_eq_false_iff_ne.2 hne]
  | (k', v) :: entries => by
    rw [setEntry_cons]
    split
    · rename_i h
      rw [List.lookup_cons, List.lookup_cons, beq_iff_eq.1 h, beq_eq_false_iff_ne.2 hne]
    · rw [List.lookup_cons, List.lookup_cons, lookup_setEntry_of_ne hne]

theorem setEntry_setEntry {key : κ} {value value' : α} : ∀ {entries : List (κ × α)},
    setEntry key value' (setEntry key value entries) = setEntry key value' entries
  | [] => by simp [setEntry_nil, setEntry_cons]
  | (k, v) :: entries => by
    by_cases h : k == key
    · simp [setEntry_cons, h]
    · simp [setEntry_cons, h, setEntry_setEntry]

omit [LawfulBEq κ] in
theorem map_setEntry {β : Type} {f : α → β} {key : κ} {value : α} : ∀ {entries : List (κ × α)},
    (setEntry key value entries).map (fun e => (e.1, f e.2)) =
      setEntry key (f value) (entries.map fun e => (e.1, f e.2))
  | [] => rfl
  | (k, v) :: entries => by
    by_cases h : k == key
    · simp [setEntry_cons, h]
    · simp [setEntry_cons, h, map_setEntry]

theorem keys_nodup_dedupEntries (entries : List (κ × α)) :
    ((dedupEntries entries).map (·.1)).Nodup := by
  suffices ∀ (es acc : List (κ × α)), (acc.map (·.1)).Nodup →
      ((es.foldl (fun acc e => setEntry e.1 e.2 acc) acc).map (·.1)).Nodup from
    this entries [] List.nodup_nil
  intro es
  induction es with
  | nil => exact fun acc h => h
  | cons e es ih => exact fun acc h => ih _ (keys_nodup_setEntry h)

end Entries

theorem setEntry_of_forall_ne {κ : Type} [BEq κ] {key : κ} {value : α} :
    ∀ {entries : List (κ × α)}, (∀ e ∈ entries, (e.1 == key) = false) →
      setEntry key value entries = entries ++ [(key, value)]
  | [], _ => rfl
  | (k, v) :: entries, h => by
    obtain ⟨hk, hentries⟩ := List.forall_mem_cons.1 h
    rw [setEntry_cons, hk, setEntry_of_forall_ne hentries]
    rfl

/-- Entries with distinct keys stay as they are. -/
theorem dedupEntries_eq_self {κ : Type} [BEq κ] {entries : List (κ × α)}
    (h : entries.Pairwise fun a b => (a.1 == b.1) = false) : dedupEntries entries = entries := by
  suffices ∀ (es acc : List (κ × α)), (acc ++ es).Pairwise (fun a b => (a.1 == b.1) = false) →
      es.foldl (fun acc e => setEntry e.1 e.2 acc) acc = acc ++ es from this entries [] h
  intro es
  induction es with
  | nil => exact fun acc _ => (List.append_nil acc).symm
  | cons e es ih =>
    intro acc hacc
    have hne : ∀ a ∈ acc, (a.1 == e.1) = false := fun a ha =>
      (List.pairwise_append.1 hacc).2.2 a ha e (List.mem_cons_self ..)
    rw [List.foldl_cons, setEntry_of_forall_ne hne, ih _ (by simpa using hacc), List.append_assoc,
      List.singleton_append]

/-! ## Each item once -/

theorem nodup_eraseDups [BEq α] [LawfulBEq α] : ∀ xs : List α, xs.eraseDups.Nodup
  | [] => List.nodup_nil
  | x :: xs => by
    rw [List.eraseDups_cons]
    refine List.nodup_cons.2 ⟨?_, nodup_eraseDups _⟩
    simp [List.mem_eraseDups]
termination_by xs => xs.length
decreasing_by exact Nat.lt_succ_of_le (List.length_filter_le ..)

theorem eraseDups_of_nodup [BEq α] [LawfulBEq α] : ∀ {xs : List α}, xs.Nodup → xs.eraseDups = xs
  | [], _ => rfl
  | x :: xs, h => by
    obtain ⟨hx, hxs⟩ := List.nodup_cons.1 h
    have hrest : (xs.filter fun y => !y == x) = xs := List.filter_eq_self.2 fun y hy => by
      have hne : y ≠ x := fun heq => hx (heq ▸ hy)
      simpa using hne
    rw [List.eraseDups_cons, hrest, eraseDups_of_nodup hxs]

/-! ## Names with a common start -/

/-- Fixed names and names with a common start are distinct if no fixed name has that start. -/
theorem nodup_append_map_start {start : String} {core names : List String} (hcore : core.Nodup)
    (hstart : ∀ n ∈ core, ¬start.toList <+: n.toList) (hnames : names.Nodup) :
    (core ++ names.map (start ++ ·)).Nodup := by
  have hinjective : Function.Injective fun n => start ++ n :=
    fun _ _ => (String.append_right_inj start).1
  refine List.nodup_append.2 ⟨hcore, List.Nodup.map hinjective hnames, ?_⟩
  intro n hn m hm heq
  obtain ⟨name, -, rfl⟩ := List.mem_map.1 hm
  refine hstart n hn ?_
  rw [heq, String.toList_append]
  exact List.prefix_append ..

end StackCompiler
