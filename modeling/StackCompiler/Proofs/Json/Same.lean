import Mathlib.Data.List.Forall2
import StackCompiler.Proofs.Data.Entries

/-!
# The same value

The order of its members says nothing about an object. `Json.Same` compares values up to that order:
objects by what is found under each name, at every depth.
-/

namespace StackCompiler.Json

/-- The values are the same, except that members may stand in another order. -/
inductive Same : Json → Json → Prop where
  | null : Same .null .null
  | bool (b : Bool) : Same (.bool b) (.bool b)
  | int (n : Int) : Same (.int n) (.int n)
  | float (x : Binary64) : Same (.float x) (.float x)
  | str (s : String) : Same (.str s) (.str s)
  | arr {vs ws : List Json} : List.Forall₂ Same vs ws → Same (.arr vs) (.arr ws)
  | obj {ms ns : List (String × Json)} :
    (∀ k, Option.Rel Same (ms.lookup k) (ns.lookup k)) → Same (.obj ms) (.obj ns)

namespace Same

@[refl] theorem refl : ∀ v : Json, Same v v
  | .null => .null
  | .bool b => .bool b
  | .int n => .int n
  | .float x => .float x
  | .str s => .str s
  | .arr vs => .arr (List.forall₂_same.2 fun v _ => refl v)
  | .obj ms => .obj fun k => match _ : ms.lookup k with
    | none => .none
    | some v => .some (refl v)
termination_by v => sizeOf v
decreasing_by
  · have := List.sizeOf_lt_of_mem ‹v ∈ vs›
    simp only [Json.arr.sizeOf_spec]
    omega
  · have hpair := List.sizeOf_lt_of_mem (mem_of_lookup_eq_some ‹ms.lookup k = some v›)
    simp only [Json.obj.sizeOf_spec, Prod.mk.sizeOf_spec] at hpair ⊢
    omega

variable {v : Json} {o : Option Json}

theorem str_iff {s : String} : Same (.str s) v ↔ v = .str s := by
  constructor
  · rintro ⟨⟩
    rfl
  · rintro rfl
    exact .str s

theorem bool_iff {b : Bool} : Same (.bool b) v ↔ v = .bool b := by
  constructor
  · rintro ⟨⟩
    rfl
  · rintro rfl
    exact .bool b

theorem ofStrs_iff {xs : List String} : Same (.ofStrs xs) v ↔ v = .ofStrs xs := by
  constructor
  · rintro ⟨⟩
    rename_i ws h
    have hws : ws = xs.map .str := by
      rw [List.forall₂_map_left_iff] at h
      induction h with
      | nil => rfl
      | cons h _ ih => rw [str_iff.1 h, ih, List.map_cons]
    rw [hws, ofStrs]
  · rintro rfl
    exact refl _

theorem rel_none_iff : Option.Rel Same none o ↔ o = none := by
  constructor
  · rintro ⟨⟩
    rfl
  · rintro rfl
    exact .none

theorem rel_some_iff : Option.Rel Same (some v) o ↔ ∃ w, o = some w ∧ Same v w := by
  constructor
  · rintro ⟨⟩
    exact ⟨_, rfl, ‹_›⟩
  · rintro ⟨w, rfl, h⟩
    exact .some h

theorem rel_some_str_iff {s : String} :
    Option.Rel Same (some (.str s)) o ↔ o = some (.str s) := by
  simp only [rel_some_iff, str_iff, exists_eq_right]

theorem rel_some_bool_iff {b : Bool} :
    Option.Rel Same (some (.bool b)) o ↔ o = some (.bool b) := by
  simp only [rel_some_iff, bool_iff, exists_eq_right]

theorem rel_map_iff {α : Type} {f : α → Json} (hf : ∀ a w, Same (f a) w ↔ w = f a) {a : Option α} :
    Option.Rel Same (a.map f) o ↔ o = a.map f := by
  cases a with
  | none => exact rel_none_iff
  | some a => simp only [Option.map_some, rel_some_iff, hf, exists_eq_right]

theorem obj_iff {ms : List (String × Json)} :
    Same (.obj ms) v ↔
      ∃ ns, v = .obj ns ∧ ∀ k, Option.Rel Same (ms.lookup k) (ns.lookup k) := by
  constructor
  · rintro ⟨⟩
    exact ⟨_, rfl, ‹_›⟩
  · rintro ⟨ns, rfl, h⟩
    exact .obj h

theorem arr_iff {vs : List Json} :
    Same (.arr vs) v ↔ ∃ ws, v = .arr ws ∧ List.Forall₂ Same vs ws := by
  constructor
  · rintro ⟨⟩
    exact ⟨_, rfl, ‹_›⟩
  · rintro ⟨ws, rfl, h⟩
    exact .arr h

/-- Objects need to be compared only at the names that they may have. -/
theorem obj_of_names {names : List String} {ms ns : List (String × Json)}
    (hms : ∀ k ∈ ms.map (·.1), k ∈ names) (hns : ∀ k ∈ ns.map (·.1), k ∈ names)
    (h : ∀ k ∈ names, Option.Rel Same (ms.lookup k) (ns.lookup k)) :
    Same (.obj ms) (.obj ns) := by
  have hlookup : ∀ {es : List (String × Json)} {k : String}, (∀ k ∈ es.map (·.1), k ∈ names) →
      k ∉ names → es.lookup k = none := by
    intro es k hes hk
    rw [List.lookup_eq_none_iff]
    intro e he
    exact bne_iff_ne.2 fun heq => hk (heq ▸ hes e.1 (List.mem_map_of_mem he))
  refine .obj fun k => ?_
  by_cases hk : k ∈ names
  · exact h k hk
  · rw [hlookup hms hk, hlookup hns hk]
    exact .none

end Same

end StackCompiler.Json
