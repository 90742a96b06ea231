import Mathlib.Data.List.Basic
import StackCompiler.Descriptor.Schema

/-!
# What schemas accept

One rule for each kind of schema: its problems with a value are none exactly where the value is as
the schema says. An object that is accepted by `Descriptor.closedObject` has the members that are
required, no unknown ones, and each of them is accepted (`closedObject_problems_eq_nil_iff`).
-/

namespace StackCompiler

namespace Schema

variable {v : Json}

theorem problem_ne_nil (message : String) : problem message ≠ [] := List.cons_ne_nil _ _

@[simp] theorem under_eq_nil_iff {step : String} {ps : List Problem} :
    under step ps = [] ↔ ps = [] := List.map_eq_nil_iff

/-! ## Combined schemas -/

theorem partProblems_cons (s : Schema) (ss : List Schema) :
    partProblems (s :: ss) v = s.problems v ++ partProblems ss v := rfl

theorem memberProblems_cons (k : String) (s : Schema) (ss : List (String × Schema)) :
    memberProblems ((k, s) :: ss) v =
      (match v.get? k with
        | some w => under k (s.problems w)
        | none => []) ++ memberProblems ss v := rfl

theorem partProblems_eq_nil_iff : ∀ {parts : List Schema},
    partProblems parts v = [] ↔ ∀ s ∈ parts, s.problems v = []
  | [] => iff_of_true rfl fun _ h => absurd h List.not_mem_nil
  | s :: ss => by
    rw [partProblems_cons, List.append_eq_nil_iff, partProblems_eq_nil_iff, List.forall_mem_cons]

theorem all_problems_eq_nil_iff {parts : List Schema} :
    (all parts).problems v = [] ↔ ∀ s ∈ parts, s.problems v = [] :=
  partProblems_eq_nil_iff

theorem memberProblems_eq_nil_iff : ∀ {parts : List (String × Schema)},
    memberProblems parts v = [] ↔
      ∀ part ∈ parts, ∀ w, v.get? part.1 = some w → part.2.problems w = []
  | [] => iff_of_true rfl fun _ h => absurd h List.not_mem_nil
  | (k, s) :: ss => by
    rw [memberProblems_cons, List.append_eq_nil_iff, memberProblems_eq_nil_iff,
      List.forall_mem_cons]
    refine and_congr_left fun _ => ?_
    cases hw : v.get? k with
    | none => simp
    | some w => simp

theorem members_problems_eq_nil_iff {parts : List (String × Schema)} :
    (members parts).problems v = [] ↔
      ∀ part ∈ parts, ∀ w, v.get? part.1 = some w → part.2.problems w = [] :=
  memberProblems_eq_nil_iff

theorem implies_problems_eq_nil_iff {condition consequence : Schema} :
    (implies condition consequence).problems v = [] ↔
      (condition.problems v = [] → consequence.problems v = []) := by
  change (if (condition.problems v).isEmpty then consequence.problems v else []) = [] ↔ _
  split
  · rename_i h
    rw [List.isEmpty_iff] at h
    simp [h]
  · rename_i h
    rw [List.isEmpty_iff] at h
    simp [h]

/-! ## Rules on one value -/

theorem kind_problems_eq_nil_iff {k : ValueKind} : (kind k).problems v = [] ↔ k.holds v := by
  change checkKind k v = [] ↔ _
  unfold checkKind
  split
  · simp_all
  · simp_all [problem_ne_nil]

theorem equals_problems_eq_nil_iff {b : Bool} : (equals b).problems v = [] ↔ v = .bool b := by
  change checkEquals b v = [] ↔ _
  unfold checkEquals
  cases v with
  | bool c =>
    by_cases h : b = c
    · simp [h]
    · simp [h, Ne.symm h, problem_ne_nil]
  | _ => simp [problem_ne_nil]

theorem equalsText_problems_eq_nil_iff {s : String} :
    (equalsText s).problems v = [] ↔ v = .str s := by
  change checkEqualsText s v = [] ↔ _
  unfold checkEqualsText
  cases v with
  | str t =>
    by_cases h : s = t
    · simp [h]
    · simp [h, Ne.symm h, problem_ne_nil]
  | _ => simp [problem_ne_nil]

theorem oneOf_problems_eq_nil_iff {words : List String} :
    (oneOf words).problems v = [] ↔ ∃ s ∈ words, v = .str s := by
  change checkOneOf words v = [] ↔ _
  unfold checkOneOf
  cases v with
  | str t => by_cases h : t ∈ words <;> simp [h, problem_ne_nil]
  | _ => simp [problem_ne_nil]

theorem form_problems_eq_nil_iff {f : TextForm} :
    (form f).problems v = [] ↔ ∀ s, v = .str s → f.accepts s := by
  change checkForm f v = [] ↔ _
  unfold checkForm
  cases v with
  | str t => cases h : f.accepts t <;> simp [h, problem_ne_nil]
  | _ => simp

theorem someText_problems_eq_nil_iff : someText.problems v = [] ↔ v ≠ .str "" := by
  change checkSomeText v = [] ↔ _
  unfold checkSomeText
  split
  · simp [problem_ne_nil]
  · simp_all

theorem someItem_problems_eq_nil_iff : someItem.problems v = [] ↔ v ≠ .arr [] := by
  change checkSomeItem v = [] ↔ _
  unfold checkSomeItem
  split
  · simp [problem_ne_nil]
  · simp_all

theorem items_problems_eq_nil_iff {part : Schema} {vs : List Json} :
    (items part).problems (.arr vs) = [] ↔ ∀ w ∈ vs, part.problems w = [] := by
  change (vs.zipIdx.flatMap fun w => under (toString w.2) (part.problems w.1)) = [] ↔ _
  simp only [List.flatMap_eq_nil_iff, under_eq_nil_iff]
  constructor
  · intro h w hw
    obtain ⟨i, hi, hget⟩ := List.getElem_of_mem hw
    exact h (w, i) (List.mk_mem_zipIdx_iff_getElem?.2 (List.getElem?_eq_some_iff.2 ⟨hi, hget⟩))
  · rintro h ⟨w, i⟩ hmem
    exact h w (List.fst_mem_of_mem_zipIdx hmem)

theorem forbids_problems_eq_nil_iff {name : String} {ms : List (String × Json)} :
    (forbids [name]).problems (.obj ms) = [] ↔ ms.lookup name = none := by
  change checkForbids [name] (.obj ms) = [] ↔ _
  unfold checkForbids
  simp only [List.all_cons, List.all_nil, Bool.and_true]
  cases ms.lookup name <;> simp [problem_ne_nil]

/-! ## Objects -/

theorem requires_problems_eq_nil_iff {names : List String} {ms : List (String × Json)} :
    (requires names).problems (.obj ms) = [] ↔ ∀ k ∈ names, (ms.lookup k).isSome := by
  change checkRequires names (.obj ms) = [] ↔ _
  unfold checkRequires
  rw [List.flatMap_eq_nil_iff]
  refine forall₂_congr fun k _ => ?_
  cases ms.lookup k <;> simp [problem_ne_nil]

theorem onlyMembers_problems_eq_nil_iff {names : List String} {ms : List (String × Json)} :
    (onlyMembers names).problems (.obj ms) = [] ↔ ∀ k ∈ ms.map (·.1), k ∈ names := by
  change checkOnlyMembers names (.obj ms) = [] ↔ _
  unfold checkOnlyMembers
  dsimp only [Json.members?, Option.getD_some]
  split
  · rename_i h
    rw [List.isEmpty_iff, List.filter_eq_nil_iff] at h
    simpa using h
  · rename_i h
    rw [List.isEmpty_iff, List.filter_eq_nil_iff] at h
    simpa [problem_ne_nil] using h

end Schema

namespace Descriptor

open Schema

theorem slugText_problems_eq_nil_iff {v : Json} :
    slugText.problems v = [] ↔ ∃ s, v = .str s ∧ Text.isSlug s := by
  rw [slugText, all_problems_eq_nil_iff]
  simp only [List.forall_mem_cons, kind_problems_eq_nil_iff, form_problems_eq_nil_iff]
  cases v <;> simp [ValueKind.holds, TextForm.slug]

theorem urlText_problems_eq_nil_iff {v : Json} :
    urlText.problems v = [] ↔ ∃ s, v = .str s ∧ Text.isHttpUrl s := by
  rw [urlText, all_problems_eq_nil_iff]
  simp only [List.forall_mem_cons, kind_problems_eq_nil_iff, form_problems_eq_nil_iff]
  cases v <;> simp [ValueKind.holds, TextForm.httpUrl]

theorem filledText_problems_eq_nil_iff {v : Json} :
    filledText.problems v = [] ↔ ∃ s, v = .str s ∧ s ≠ "" := by
  rw [filledText, all_problems_eq_nil_iff]
  simp only [List.forall_mem_cons, kind_problems_eq_nil_iff, someText_problems_eq_nil_iff]
  cases v <;> simp [ValueKind.holds]

theorem someRoles_problems_eq_nil_iff {v : Json} :
    someRoles.problems v = [] ↔
      ∃ vs, v = .arr vs ∧ vs ≠ [] ∧ ∀ w ∈ vs, ∃ s, w = .str s ∧ Text.isSlug s := by
  rw [someRoles, all_problems_eq_nil_iff]
  simp only [List.forall_mem_cons, kind_problems_eq_nil_iff, someItem_problems_eq_nil_iff]
  cases v with
  | arr vs => simp [ValueKind.holds, items_problems_eq_nil_iff, slugText_problems_eq_nil_iff]
  | _ => simp [ValueKind.holds]

/-- An object with the members that are required, no unknown ones, and each of them accepted. -/
theorem closedObject_problems_eq_nil_iff {names : List String} {parts : List (String × Schema)}
    {v : Json} :
    (closedObject names parts).problems v = [] ↔ ∃ ms, v = .obj ms ∧
      (∀ k ∈ ms.map (·.1), k ∈ parts.map (·.1)) ∧ (∀ k ∈ names, (ms.lookup k).isSome) ∧
      ∀ part ∈ parts, ∀ w, ms.lookup part.1 = some w → part.2.problems w = [] := by
  rw [closedObject, all_problems_eq_nil_iff]
  simp only [List.forall_mem_cons, kind_problems_eq_nil_iff, members_problems_eq_nil_iff]
  cases v with
  | obj ms =>
    rw [onlyMembers_problems_eq_nil_iff, requires_problems_eq_nil_iff]
    simp [ValueKind.holds, Json.get?]
  | _ => simp [ValueKind.holds]

/-- An object that has all members that are required, and no others than there may be. -/
theorem closedObject_problems_obj_eq_nil_iff {names : List String}
    {parts : List (String × Schema)} {ms : List (String × Json)}
    (hknown : ∀ k ∈ ms.map (·.1), k ∈ parts.map (·.1))
    (hrequired : ∀ k ∈ names, (ms.lookup k).isSome) :
    (closedObject names parts).problems (.obj ms) = [] ↔
      ∀ part ∈ parts, ∀ w, ms.lookup part.1 = some w → part.2.problems w = [] := by
  rw [closedObject_problems_eq_nil_iff]
  constructor
  · rintro ⟨_, heq, -, -, h⟩
    cases heq
    exact h
  · exact fun h => ⟨ms, rfl, hknown, hrequired, h⟩

theorem someRoles_problems_ofStrs_eq_nil_iff {roles : List String} :
    someRoles.problems (.ofStrs roles) = [] ↔ roles ≠ [] ∧ ∀ r ∈ roles, Text.isSlug r := by
  rw [someRoles_problems_eq_nil_iff]
  constructor
  · rintro ⟨_, heq, hne, hslug⟩
    cases heq
    simpa using And.intro hne hslug
  · rintro ⟨hne, hslug⟩
    exact ⟨_, rfl, by simpa using hne, by simpa using hslug⟩

/-! ## Rules on access -/

variable {ms : List (String × Json)}

theorem freeRule_problems_obj_iff : freeRule.problems (.obj ms) = [] ↔
    ((∀ w, ms.lookup "authType" = some w → w = .str "none") →
      (∀ w, ms.lookup "protected" = some w → w = .bool false) ∧
        ms.lookup "requiredRoles" = none) := by
  rw [freeRule, implies_problems_eq_nil_iff, members_problems_eq_nil_iff, all_problems_eq_nil_iff]
  simp [members_problems_eq_nil_iff, forbids_problems_eq_nil_iff, equalsText_problems_eq_nil_iff,
    equals_problems_eq_nil_iff, Json.get?, Access.word]

theorem guardedRule_problems_obj_iff : guardedRule.problems (.obj ms) = [] ↔
    ((∀ w, ms.lookup "authType" = some w → w = .str "proxy-auth" ∨ w = .str "ui-auth") →
      (∀ w, ms.lookup "protected" = some w → w = .bool true) ∧
        (ms.lookup "requiredRoles").isSome) := by
  rw [guardedRule, implies_problems_eq_nil_iff, members_problems_eq_nil_iff,
    all_problems_eq_nil_iff]
  simp [members_problems_eq_nil_iff, requires_problems_eq_nil_iff, oneOf_problems_eq_nil_iff,
    equals_problems_eq_nil_iff, Json.get?, Access.word]

end Descriptor
end StackCompiler
