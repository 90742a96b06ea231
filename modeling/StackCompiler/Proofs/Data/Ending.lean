import StackCompiler.Proofs.Data.Reading

/-!
# Where readings end at once

A reading collects issues, but ends at once where it meets a collection that has no items
(`Decoded.notIterable`). A reading that is put together from parts ends at once just where one of
the parts does, and no reading of a scalar does.
-/

namespace StackCompiler

variable {α β : Type}

/-! ## Results -/

namespace Decoded

variable {x : Decoded α} {y : Decoded β}

theorem map_eq_notIterable {f : α → β} : x.map f = .notIterable ↔ x = .notIterable := by
  cases x <;> simp [map]

theorem both_eq_notIterable : both x y = .notIterable ↔ x = .notIterable ∨ y = .notIterable := by
  cases x <;> cases y <;> simp [both]

theorem fmap_eq_notIterable {f : α → β} : (f <$> x) = .notIterable ↔ x = .notIterable :=
  map_eq_notIterable

theorem seq_eq_notIterable {f : Decoded (α → β)} :
    (f <*> x) = .notIterable ↔ f = .notIterable ∨ x = .notIterable :=
  map_eq_notIterable.trans both_eq_notIterable

theorem under_eq_notIterable {step : Step} : x.under step = .notIterable ↔ x = .notIterable := by
  cases x <;> simp [under]

/-- A further step that never ends at once. -/
theorem andThen_eq_notIterable {f : α → Decoded β} (hf : ∀ a, f a ≠ .notIterable) :
    x.andThen f = .notIterable ↔ x = .notIterable := by
  cases x <;> simp [andThen, hf]

theorem all_eq_notIterable : ∀ {xs : List (Decoded α)}, all xs = .notIterable ↔ .notIterable ∈ xs
  | [] => by simp [all]
  | x :: xs => by
    rw [all, map_eq_notIterable, both_eq_notIterable, all_eq_notIterable, List.mem_cons, eq_comm]

end Decoded

namespace Decode

open Decoded

variable {decode : Data → Decoded α} {fs : Fields} {name : FieldName} {d : Data}

/-! ## Scalars -/

theorem text_ne_notIterable (d : Data) : text d ≠ .notIterable := by
  unfold text
  split
  · simp
  · split <;> simp [fail]
  · simp [fail]

theorem boolOfText_ne_notIterable (s : String) : boolOfText s ≠ .notIterable := by
  unfold boolOfText
  dsimp only
  split
  · simp
  · split <;> simp [fail]

theorem boolOfInt_ne_notIterable (n : Int) : boolOfInt n ≠ .notIterable := by
  unfold boolOfInt
  repeat' split
  all_goals simp [fail]

theorem bool_ne_notIterable (d : Data) : bool d ≠ .notIterable := by
  unfold bool
  split
  · simp
  · exact boolOfText_ne_notIterable _
  · split
    · exact boolOfText_ne_notIterable _
    · simp [fail]
  · exact boolOfInt_ne_notIterable _
  · split
    · split
      · exact boolOfInt_ne_notIterable _
      · simp [fail]
    · simp [fail]
  · simp [fail]

theorem literal_ne_notIterable (table : List (String × α)) (d : Data) :
    literal table d ≠ .notIterable := by
  unfold literal
  split
  · split <;> simp [fail]
  · simp [fail]

theorem member_ne_notIterable (table : List (String × α)) (d : Data) :
    member table d ≠ .notIterable := by
  unfold member
  split
  · split <;> simp [fail]
  · simp [fail]

theorem keyText_ne_notIterable (s : Scalar) : keyText s ≠ .notIterable := by
  rw [keyText, ne_eq, under_eq_notIterable, under_eq_notIterable]
  exact text_ne_notIterable _

/-! ## Fields -/

theorem nullable_eq_notIterable :
    nullable decode d = .notIterable ↔ d.isNull = false ∧ decode d = .notIterable := by
  unfold nullable
  cases d.isNull with
  | true => simp
  | false => simp [map_eq_notIterable]

/-- Where a field is there, its reading is that of its value. -/
theorem optional_eq_notIterable {default : α} :
    optional fs name default decode = .notIterable ↔
      ∃ e, find? fs name = some e ∧ decode e.2 = .notIterable := by
  unfold optional
  cases find? fs name with
  | none => simp
  | some e => simp [under_eq_notIterable]

theorem required_eq_notIterable : required fs name decode = .notIterable ↔
    ∃ e, find? fs name = some e ∧ decode e.2 = .notIterable := by
  unfold required
  cases find? fs name with
  | none => simp [fail, under]
  | some e => simp [under_eq_notIterable]

theorem maybe_eq_notIterable : maybe fs name decode = .notIterable ↔
    ∃ e, find? fs name = some e ∧ e.2.isNull = false ∧ decode e.2 = .notIterable := by
  simp only [maybe, optional_eq_notIterable, nullable_eq_notIterable]

theorem closed_eq_notIterable {names : List FieldName} {x : Decoded α} :
    closed fs names x = .notIterable ↔ x = .notIterable := by
  unfold closed
  split
  · rfl
  · simp [map_eq_notIterable, both_eq_notIterable]

theorem record_eq_notIterable {decode : Fields → Decoded α} :
    record decode d = .notIterable ↔ ∃ fs, d = .map fs ∧ decode fs = .notIterable := by
  cases d <;> simp [record, fail]

/-! ## Collections -/

theorem items_eq_notIterable {xs : List Data} :
    items decode xs = .notIterable ↔ ∃ x ∈ xs, decode x = .notIterable := by
  rw [items, all_eq_notIterable, List.mem_map]
  constructor
  · rintro ⟨⟨x, i⟩, hmem, hx⟩
    exact ⟨x, List.fst_mem_of_mem_zipIdx hmem, under_eq_notIterable.1 hx⟩
  · rintro ⟨x, hmem, hx⟩
    obtain ⟨i, hi, rfl⟩ := List.mem_iff_getElem.1 hmem
    exact ⟨(xs[i], i), List.mk_mem_zipIdx_iff_getElem?.2 (List.getElem?_eq_getElem hi),
      under_eq_notIterable.2 hx⟩

/-- A set has scalars alone. -/
theorem list_eq_notIterable (hscalar : ∀ s, decode (.scalar s) ≠ .notIterable) :
    list decode d = .notIterable ↔ ∃ xs, d = .list xs ∧ ∃ x ∈ xs, decode x = .notIterable := by
  cases d with
  | list xs => simp [list, items_eq_notIterable]
  | set ms => simp [list, items_eq_notIterable, hscalar]
  | scalar s => simp [list, fail]
  | map es => simp [list, fail]

theorem mapping_eq_notIterable : mapping decode d = .notIterable ↔
    ∃ es, d = .map es ∧ ∃ e ∈ es, decode e.2 = .notIterable := by
  cases d with
  | map es =>
    simp [mapping, map_eq_notIterable, all_eq_notIterable, both_eq_notIterable,
      keyText_ne_notIterable, under_eq_notIterable]
  | list xs => simp [mapping, fail]
  | set ms => simp [mapping, fail]
  | scalar s => simp [mapping, fail]

end Decode
end StackCompiler
