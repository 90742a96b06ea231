import StackCompiler.CommandLine.Run
import StackCompiler.Proofs.Encoding.Percent
import StackCompiler.Proofs.Text.Pattern

/-!
# Printed lines

What is printed is the lines of a report without terminal sequences. A text without an escape
character is printed as it is (`CommandLine.plain_of_not_mem`), and one with a sequence is not
(`CommandLine.plain_ne_of_infix`). Slugs and encoded texts have no control characters but line feeds
at their ends.
-/

namespace StackCompiler.CommandLine

variable {c : Char}

/-! ## Control characters -/

/-- No control characters of ASCII are in the text. -/
def Printable (cs : List Char) : Prop := ∀ c ∈ cs, 32 ≤ c.toNat

instance (cs : List Char) : Decidable (Printable cs) :=
  decidable_of_iff (cs.all fun c => 32 ≤ c.toNat) (by simp [Printable])

theorem printable_encode (s : String) : Printable (Percent.encode s).toList := by
  intro c hc
  rcases Percent.mem_encode hc with h | rfl
  · exact Nat.le_trans (by decide) (Percent.toNat_of_isUnreserved h).1
  · decide

theorem printable_of_isSlug {s : String} (h : Text.isSlug s) (hs : '\n' ∉ s.toList) :
    Printable s.toList := by
  intro c hc
  rcases Text.isSlugChar_or_eq_of_isSlug h hc with hchar | rfl
  · exact Nat.le_trans (by decide) (Text.toNat_of_isSlugChar hchar).1
  · exact absurd hc hs

/-! ## Lines -/

theorem toList_unlines (lines : List String) :
    (unlines lines).toList = lines.flatMap fun line => line.toList ++ ['\n'] := by
  simp [unlines, String.toList_join, List.flatMap_map]

theorem mem_unlines {lines : List String} :
    c ∈ (unlines lines).toList ↔ ∃ line ∈ lines, c ∈ line.toList ∨ c = '\n' := by
  simp [toList_unlines]

theorem infix_unlines {lines : List String} {line : String} (h : line ∈ lines) :
    line.toList <:+: (unlines lines).toList := by
  obtain ⟨before, after, rfl⟩ := List.append_of_mem h
  exact ⟨(unlines before).toList, '\n' :: (unlines after).toList, by
    simp [toList_unlines]⟩

theorem plainChars_of_not_mem : ∀ {cs : List Char}, '\x1b' ∉ cs → plainChars 0 cs = cs
  | [], _ => rfl
  | c :: cs, h => by
    rw [List.mem_cons, not_or] at h
    rw [plainChars, if_neg (Ne.symm h.1)]
    exact congrArg _ (plainChars_of_not_mem h.2)

theorem plain_of_not_mem {s : String} (h : '\x1b' ∉ s.toList) : plain s = s := by
  rw [plain, plainChars_of_not_mem h, String.ofList_toList]

theorem length_plainChars_le : ∀ (n : Nat) (cs : List Char), (plainChars n cs).length ≤ cs.length
  | _, [] => by rw [plainChars]
  | n + 1, c :: cs => Nat.le_succ_of_le (length_plainChars_le n cs)
  | 0, c :: cs => by
    rw [plainChars]
    split
    · exact Nat.le_succ_of_le (length_plainChars_le _ cs)
    · exact Nat.succ_le_succ (length_plainChars_le 0 cs)

/-- Something is left out of a text in which there is a sequence, whatever comes after it. -/
theorem length_plainChars_lt {ys : List Char}
    (hys : ∀ zs, (sequenceLength? (ys ++ zs)).isSome) :
    ∀ (n : Nat) {cs : List Char}, '\x1b' :: ys <:+: cs → (plainChars n cs).length < cs.length
  | _, [], h => absurd (List.infix_nil.1 h) (List.cons_ne_nil _ _)
  | n + 1, c :: cs, _ => Nat.lt_succ_of_le (length_plainChars_le n cs)
  | 0, c :: cs, h => by
    rw [plainChars]
    split
    · exact Nat.lt_succ_of_le (length_plainChars_le _ cs)
    · rename_i hnone
      rcases List.infix_cons_iff.1 h with hstart | hlater
      · obtain ⟨rfl, zs, rfl⟩ := List.cons_prefix_cons.1 hstart
        have hsome := hys zs
        rw [if_pos rfl] at hnone
        rw [hnone] at hsome
        cases hsome
      · exact Nat.succ_lt_succ (length_plainChars_lt hys 0 hlater)

theorem plain_ne_of_infix {s : String} {ys : List Char}
    (hys : ∀ zs, (sequenceLength? (ys ++ zs)).isSome) (h : '\x1b' :: ys <:+: s.toList) :
    plain s ≠ s := by
  intro heq
  have hlength := length_plainChars_lt hys 0 h
  have hchars := congrArg String.toList heq
  rw [plain, String.toList_ofList] at hchars
  rw [hchars] at hlength
  exact Nat.lt_irrefl _ hlength

end StackCompiler.CommandLine
