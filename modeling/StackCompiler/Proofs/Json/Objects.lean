import StackCompiler.Json.Reader

/-!
# Texts of objects

A text that is read as an object starts with a brace after gaps, and the brace goes on with a gap, a
quote or the other brace. So the first two characters of such a text are among few ASCII characters
(`exists_start_of_read`).
-/

namespace StackCompiler.Json

namespace Reader

variable {depth fuel : Nat} {cs rest : List Char} {v : Json}

/-- The value is no object. -/
def IsOther (v : Json) : Prop := v.members? = none

theorem isOther_of_items : ∀ {fuel : Nat} {acc : List Json} {cs : List Char},
    items depth acc fuel cs = .ok (v, rest) → IsOther v
  | 0, _, _, h => by cases h
  | fuel + 1, acc, cs, h => by
    rw [items] at h
    split at h
    · cases h
    · split at h
      · exact isOther_of_items h
      · cases h
        rfl
      · cases h

theorem isOther_of_number {negative : Bool} (h : number negative cs = .ok (v, rest)) :
    IsOther v := by
  unfold number at h
  split at h
  split at h
  · cases h
  · split at h
    split at h
    split at h
    · split at h
      · cases h
      · cases h
        rfl
    · cases h
      rfl

theorem isOther_of_name (h : name cs = some (v, rest)) : IsOther v := by
  have hnames : ∀ e ∈ names, IsOther e.2 := by
    unfold names
    simp only [List.forall_mem_cons]
    exact ⟨rfl, rfl, rfl, rfl, rfl, rfl, fun e he => absurd he List.not_mem_nil⟩
  obtain ⟨e, he, hfound⟩ := List.exists_of_findSome?_eq_some h
  obtain ⟨_, -, heq⟩ := Option.map_eq_some_iff.1 hfound
  cases heq
  exact hnames e he

/-- An object starts with a brace. -/
theorem exists_brace_of_value {ms : List (String × Json)}
    (h : value depth fuel cs = .ok (.obj ms, rest)) :
    ∃ cs', cs = '\x7b' :: cs' ∧
      ((∃ after, dropGaps cs' = '\x7d' :: after) ∨ ∃ after, dropGaps cs' = '"' :: after) := by
  have hother : ¬IsOther (.obj ms) := fun h => by cases h
  cases fuel with
  | zero =>
    rw [value] at h
    cases h
  | succ fuel =>
    unfold value at h
    dsimp only at h
    split at h
    · rename_i cs'
      cases hs : string [] fuel cs' with
      | error e =>
        rw [hs] at h
        cases h
      | ok found =>
        rw [hs] at h
        cases h
    · split at h
      · cases h
      · split at h
        · cases h
        · exact absurd (isOther_of_items h) hother
    · rename_i cs'
      refine ⟨cs', rfl, ?_⟩
      split at h
      · cases h
      · split at h
        · rename_i after heq
          exact .inl ⟨after, heq⟩
        · right
          revert h
          generalize dropGaps cs' = ds
          intro h
          cases fuel with
          | zero => cases h
          | succ fuel =>
            unfold members at h
            split at h
            · exact ⟨_, rfl⟩
            · cases h
    · split at h
      · rename_i found hname
        cases h
        exact absurd (isOther_of_name hname) hother
      · split at h
        · exact absurd (isOther_of_number h) hother
        · exact absurd (isOther_of_number h) hother

theorem dropGaps_eq_cons {c : Char} (h : dropGaps cs = c :: rest) :
    ∃ d ds, cs = d :: ds ∧ (isGap d ∧ dropGaps ds = c :: rest ∨ d = c ∧ ds = rest) := by
  cases cs with
  | nil => cases h
  | cons d ds =>
    refine ⟨d, ds, rfl, ?_⟩
    by_cases hd : isGap d
    · exact .inl ⟨hd, by rwa [dropGaps, List.dropWhile_cons_of_pos hd] at h⟩
    · rw [dropGaps, List.dropWhile_cons_of_neg hd] at h
      exact .inr (List.cons.inj h)

end Reader

open Reader (isGap)

/-- The characters at the start of an object. -/
def IsStart (c : Char) : Prop := isGap c ∨ c = '\x7b' ∨ c = '\x7d' ∨ c = '"'

/-- A text that is read as an object has at least two characters, and the first two are known. -/
theorem exists_start_of_read {text : String} {ms : List (String × Json)}
    (h : read text = .ok (.obj ms)) :
    ∃ c d cs, text.toList = c :: d :: cs ∧ IsStart c ∧ IsStart d := by
  rw [read, Reader.document] at h
  cases hvalue : Reader.value 0 (2 * text.toList.length + 2) (Reader.dropGaps text.toList) with
  | error e =>
    rw [hvalue] at h
    cases h
  | ok found =>
    obtain ⟨v, rest⟩ := found
    rw [hvalue] at h
    change (if _ then Except.ok v else Except.error ReadError.malformed) = _ at h
    split at h
    · cases h
      obtain ⟨cs, hcs, hafter⟩ := Reader.exists_brace_of_value hvalue
      have hsecond : ∃ d rest, cs = d :: rest ∧ IsStart d := by
        rcases hafter with ⟨after, h⟩ | ⟨after, h⟩
        · obtain ⟨d, ds, rfl, ⟨hd, -⟩ | ⟨rfl, -⟩⟩ := Reader.dropGaps_eq_cons h
          · exact ⟨d, ds, rfl, .inl hd⟩
          · exact ⟨_, ds, rfl, .inr (.inr (.inl rfl))⟩
        · obtain ⟨d, ds, rfl, ⟨hd, -⟩ | ⟨rfl, -⟩⟩ := Reader.dropGaps_eq_cons h
          · exact ⟨d, ds, rfl, .inl hd⟩
          · exact ⟨_, ds, rfl, .inr (.inr (.inr rfl))⟩
      obtain ⟨c, ds, htext, ⟨hc, hds⟩ | ⟨rfl, rfl⟩⟩ := Reader.dropGaps_eq_cons hcs
      · obtain ⟨d, rest, rfl, ⟨hd, -⟩ | ⟨rfl, -⟩⟩ := Reader.dropGaps_eq_cons hds
        · exact ⟨c, d, rest, htext, .inl hc, .inl hd⟩
        · exact ⟨c, _, rest, htext, .inl hc, .inr (.inl rfl)⟩
      · obtain ⟨d, rest, rfl, hd⟩ := hsecond
        exact ⟨_, d, rest, htext, .inr (.inl rfl), hd⟩
    · cases h

end StackCompiler.Json
