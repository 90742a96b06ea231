import Mathlib.Data.List.Forall2
import StackCompiler.Failure
import StackCompiler.Proofs.Data.Entries

/-!
# What successful readings say

Where a reading that is put together from parts gives a value, each part gave one. The rules are
stated for `Except` and for `Decoded`, and then for the readers of fields. A mapping that was read
has each key once (`keys_nodup_of_mapping`).
-/

namespace StackCompiler

variable {ε α β γ : Type}

/-! ## Exceptions -/

theorem bind_eq_ok {x : Except ε α} {f : α → Except ε β} {b : β} :
    (x >>= f) = .ok b ↔ ∃ a, x = .ok a ∧ f a = .ok b := by
  cases x with
  | error e => simp [bind, Except.bind]
  | ok a => simp [bind, Except.bind]

theorem exists_bind_eq_ok {x : Except ε α} {f : α → Except ε β} (hx : ∃ a, x = .ok a)
    (hf : ∀ a, ∃ b, f a = .ok b) : ∃ b, (x >>= f) = .ok b := by
  obtain ⟨a, ha⟩ := hx
  obtain ⟨b, hb⟩ := hf a
  exact ⟨b, bind_eq_ok.2 ⟨a, ha, hb⟩⟩

theorem toOption_eq_some_iff {x : Except ε α} {a : α} : x.toOption = some a ↔ x = .ok a := by
  cases x <;> simp [Except.toOption]

theorem exists_eq_ok_of_toOption_isSome {x : Except ε α} (h : x.toOption.isSome) :
    ∃ a, x = .ok a := by
  obtain ⟨a, ha⟩ := Option.isSome_iff_exists.1 h
  exact ⟨a, toOption_eq_some_iff.1 ha⟩

/-- A traversal succeeds where it succeeds on each item. -/
theorem mapM_eq_ok_iff {f : α → Except ε β} : ∀ {xs : List α} {ys : List β},
    xs.mapM f = .ok ys ↔ List.Forall₂ (fun x y => f x = .ok y) xs ys
  | [], ys => by
    rw [List.mapM_nil, List.forall₂_nil_left_iff]
    constructor
    · intro h
      cases h
      rfl
    · intro h
      rw [h]
      rfl
  | x :: xs, ys => by
    simp only [List.mapM_cons, bind_eq_ok, List.forall₂_cons_left_iff]
    constructor
    · rintro ⟨y, hx, ys', hxs, h⟩
      cases h
      exact ⟨y, ys', hx, mapM_eq_ok_iff.1 hxs, rfl⟩
    · rintro ⟨y, ys', hx, hxs, rfl⟩
      exact ⟨y, hx, ys', mapM_eq_ok_iff.2 hxs, rfl⟩

theorem exists_mem_of_mapM_eq_ok {f : α → Except ε β} : ∀ {xs : List α} {ys : List β},
    xs.mapM f = .ok ys → ∀ x ∈ xs, ∃ y ∈ ys, f x = .ok y
  | [], _, _, _, hx => absurd hx List.not_mem_nil
  | x :: xs, ys, h, x', hx' => by
    obtain ⟨y, ys', hy, hys', rfl⟩ := List.forall₂_cons_left_iff.1 (mapM_eq_ok_iff.1 h)
    rcases List.mem_cons.1 hx' with rfl | hx'
    · exact ⟨y, List.mem_cons_self .., hy⟩
    · obtain ⟨y', hmem, hy'⟩ := exists_mem_of_mapM_eq_ok (mapM_eq_ok_iff.2 hys') x' hx'
      exact ⟨y', List.mem_cons_of_mem _ hmem, hy'⟩

theorem exists_mem_of_mem_mapM {f : α → Except ε β} : ∀ {xs : List α} {ys : List β},
    xs.mapM f = .ok ys → ∀ y ∈ ys, ∃ x ∈ xs, f x = .ok y
  | [], ys, h, y, hy => by
    cases h
    exact absurd hy List.not_mem_nil
  | x :: xs, ys, h, y', hy' => by
    obtain ⟨y, ys', hy, hys', rfl⟩ := List.forall₂_cons_left_iff.1 (mapM_eq_ok_iff.1 h)
    rcases List.mem_cons.1 hy' with rfl | hy'
    · exact ⟨x, List.mem_cons_self .., hy⟩
    · obtain ⟨x', hmem, hx'⟩ := exists_mem_of_mem_mapM (mapM_eq_ok_iff.2 hys') y' hy'
      exact ⟨x', List.mem_cons_of_mem _ hmem, hx'⟩

/-- A traversal fails with the failure of an item. -/
theorem exists_mem_of_mapM_eq_error {f : α → Except ε β} {e : ε} : ∀ {xs : List α},
    xs.mapM f = .error e → ∃ x ∈ xs, f x = .error e
  | [], h => by cases h
  | x :: xs, h => by
    rw [List.mapM_cons] at h
    cases hx : f x with
    | error e' =>
      rw [hx] at h
      cases h
      exact ⟨x, List.mem_cons_self .., hx⟩
    | ok y =>
      cases hxs : xs.mapM f with
      | error e' =>
        rw [hx, hxs] at h
        cases h
        obtain ⟨x', hmem, hx'⟩ := exists_mem_of_mapM_eq_error hxs
        exact ⟨x', List.mem_cons_of_mem _ hmem, hx'⟩
      | ok ys =>
        rw [hx, hxs] at h
        cases h

/-- A traversal that keeps a part of each item keeps the list of these parts. -/
theorem map_eq_map_of_mapM {f : α → Except ε β} {g : α → γ} {g' : β → γ}
    (hkeep : ∀ x y, f x = .ok y → g' y = g x) : ∀ {xs : List α} {ys : List β},
    xs.mapM f = .ok ys → ys.map g' = xs.map g
  | [], ys, h => by
    cases h
    rfl
  | x :: xs, ys, h => by
    obtain ⟨y, ys', hy, hys', rfl⟩ := List.forall₂_cons_left_iff.1 (mapM_eq_ok_iff.1 h)
    rw [List.map_cons, List.map_cons, hkeep x y hy,
      map_eq_map_of_mapM hkeep (mapM_eq_ok_iff.2 hys')]

/-- A traversal by a reading that gives a part of what another one gives. -/
theorem mapM_eq_ok_map {f : α → Except ε β} {f' : α → Except ε γ} {g : β → γ}
    (h : ∀ x y, f x = .ok y → f' x = .ok (g y)) {xs : List α} {ys : List β}
    (hxs : xs.mapM f = .ok ys) : xs.mapM f' = .ok (ys.map g) := by
  refine mapM_eq_ok_iff.2 (List.forall₂_map_right_iff.2 ?_)
  exact (mapM_eq_ok_iff.1 hxs).imp fun x y => h x y

theorem exists_mapM_eq_ok {f : α → Except ε β} : ∀ {xs : List α},
    (∀ x ∈ xs, ∃ y, f x = .ok y) → ∃ ys, xs.mapM f = .ok ys
  | [], _ => ⟨[], rfl⟩
  | x :: xs, h => by
    obtain ⟨⟨y, hx⟩, hxs⟩ := List.forall_mem_cons.1 h
    obtain ⟨ys, hys⟩ := exists_mapM_eq_ok hxs
    exact ⟨y :: ys, mapM_eq_ok_iff.2 (.cons hx (mapM_eq_ok_iff.1 hys))⟩

/-- Where all failures are alike, a traversal fails with the first of them. -/
theorem mapM_eq_error {f : α → Except ε β} {e : ε}
    (hf : ∀ x, f x = .error e ∨ ∃ y, f x = .ok y) {xs : List α} {x : α} (hx : x ∈ xs)
    (hfail : f x = .error e) : xs.mapM f = .error e := by
  induction xs with
  | nil => exact absurd hx List.not_mem_nil
  | cons a xs ih =>
    rw [List.mapM_cons]
    rcases hf a with ha | ⟨y, ha⟩
    · rw [ha]
      rfl
    · have hmem : x ∈ xs := by
        rcases List.mem_cons.1 hx with rfl | hmem
        · rw [ha] at hfail
          cases hfail
        · exact hmem
      rw [ha, ih hmem]
      rfl

/-! ## Readings -/

namespace Decoded

theorem map_eq_ok {f : α → β} {x : Decoded α} {b : β} :
    x.map f = .ok b ↔ ∃ a, x = .ok a ∧ f a = b := by
  cases x <;> simp [map]

theorem both_eq_ok {x : Decoded α} {y : Decoded β} {c : α × β} :
    both x y = .ok c ↔ x = .ok c.1 ∧ y = .ok c.2 := by
  rcases c with ⟨a, b⟩
  cases x <;> cases y <;> simp [both]

theorem fmap_eq_ok {f : α → β} {x : Decoded α} {b : β} :
    (f <$> x) = .ok b ↔ ∃ a, x = .ok a ∧ f a = b := map_eq_ok

theorem seq_eq_ok {f : Decoded (α → β)} {x : Decoded α} {b : β} :
    (f <*> x) = .ok b ↔ ∃ g a, f = .ok g ∧ x = .ok a ∧ g a = b := by
  change (both f x).map _ = _ ↔ _
  rw [map_eq_ok]
  constructor
  · rintro ⟨⟨g, a⟩, h, rfl⟩
    obtain ⟨hf, hx⟩ := both_eq_ok.1 h
    exact ⟨g, a, hf, hx, rfl⟩
  · rintro ⟨g, a, hf, hx, rfl⟩
    exact ⟨(g, a), both_eq_ok.2 ⟨hf, hx⟩, rfl⟩

theorem andThen_eq_ok {x : Decoded α} {f : α → Decoded β} {b : β} :
    x.andThen f = .ok b ↔ ∃ a, x = .ok a ∧ f a = .ok b := by
  cases x <;> simp [andThen]

theorem under_eq_ok {x : Decoded α} {step : Step} {a : α} :
    x.under step = .ok a ↔ x = .ok a := by
  cases x <;> simp [under]

theorem all_of_forall₂ {f : β → Decoded α} : ∀ {xs : List β} {as : List α},
    List.Forall₂ (fun x a => f x = .ok a) xs as → all (xs.map f) = .ok as
  | [], [], _ => rfl
  | x :: xs, a :: as, .cons hx hxs => by
    rw [List.map_cons, all, hx, all_of_forall₂ hxs]
    rfl

theorem toExcept_eq_ok {x : Decoded α} {f : List Issue → Failure} {a : α} :
    x.toExcept f = .ok a ↔ x = .ok a := by
  cases x <;> simp [toExcept]

end Decoded

namespace Decode

open Decoded

theorem exists_of_required {fs : Fields} {name : FieldName} {decode : Data → Decoded α} {a : α}
    (h : required fs name decode = .ok a) : ∃ d, decode d = .ok a := by
  unfold required at h
  split at h
  · exact ⟨_, under_eq_ok.1 h⟩
  · cases h

theorem exists_of_optional {fs : Fields} {name : FieldName} {default : α}
    {decode : Data → Decoded α} {a : α} (h : optional fs name default decode = .ok a) :
    a = default ∨ ∃ d, decode d = .ok a := by
  unfold optional at h
  split at h
  · exact .inr ⟨_, under_eq_ok.1 h⟩
  · cases h
    exact .inl rfl

theorem optional_of_find? {fs : Fields} {name : FieldName} {default : α} {decode : Data → Decoded α}
    {key : String} {d : Data} {a : α} (hfind : find? fs name = some (key, d))
    (hdecode : decode d = .ok a) : optional fs name default decode = .ok a := by
  rw [optional, hfind]
  exact under_eq_ok.2 hdecode

end Decode

/-! ## Mappings -/

theorem keys_nodup_of_mapping {decode : Data → Decoded α} {d : Data}
    {entries : List (String × α)} (h : Decode.mapping decode d = .ok entries) :
    (entries.map (·.1)).Nodup := by
  unfold Decode.mapping at h
  split at h
  · obtain ⟨es, -, rfl⟩ := Decoded.map_eq_ok.1 h
    exact keys_nodup_dedupEntries es
  · cases h

end StackCompiler
