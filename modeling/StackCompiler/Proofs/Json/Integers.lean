import Mathlib.Data.List.Basic
import Mathlib.Data.List.TakeDrop
import Mathlib.Data.List.TakeWhile
import Mathlib.Tactic.IntervalCases
import StackCompiler.Json.Reader

/-!
# Integers are read back

An integer that is not too long is read from its decimal text, where what follows does not go on
with the number (`value_toString`).
-/

namespace StackCompiler.Json.Reader

open Text (isAsciiDigit ofAsciiDigits)

variable {c : Char} {cs ds rest whole : List Char} {n : Nat}

/-! ## The end of a number -/

/-- A character with which a number may go on. -/
def isNumberPart (c : Char) : Bool := isAsciiDigit c || c == '.' || c == 'e' || c == 'E'

/-- The text does not go on with a number. -/
def Stops (cs : List Char) : Prop := ∀ c ∈ cs.head?, isNumberPart c = false

theorem stops_nil : Stops [] := fun _ h => by cases h

theorem stops_cons (h : isNumberPart c = false) : Stops (c :: cs) := fun _ hc => by
  cases hc
  exact h

/-- After a number come gaps and then something else. -/
theorem stops_of_dropGaps (h : dropGaps cs = c :: rest) (hc : isNumberPart c = false) :
    Stops cs := by
  have hgap : ∀ d, isGap d → isNumberPart d = false := by
    intro d hd
    unfold isGap at hd
    simp only [Bool.or_eq_true, beq_iff_eq] at hd
    obtain ((rfl | rfl) | rfl) | rfl := hd <;> rfl
  cases cs with
  | nil => exact stops_nil
  | cons d cs =>
    refine stops_cons ?_
    by_cases hd : isGap d
    · exact hgap d hd
    · rw [dropGaps, List.dropWhile_cons_of_neg hd] at h
      rwa [(List.cons.inj h).1]

theorem asciiDigits_append (hds : ∀ d ∈ ds, isAsciiDigit d) (hrest : Stops rest) :
    asciiDigits (ds ++ rest) = (ds, rest) := by
  have hend : rest.takeWhile isAsciiDigit = [] ∧ rest.dropWhile isAsciiDigit = rest := by
    cases rest with
    | nil => exact ⟨rfl, rfl⟩
    | cons c rest =>
      have hc := hrest c rfl
      simp only [isNumberPart, Bool.or_eq_false_iff] at hc
      have hdigit : ¬isAsciiDigit c = true := by
        rw [hc.1.1.1]
        exact Bool.false_ne_true
      exact ⟨List.takeWhile_cons_of_neg hdigit, List.dropWhile_cons_of_neg hdigit⟩
  rw [asciiDigits, List.span_eq_takeWhile_dropWhile, List.takeWhile_append_of_pos hds,
    List.dropWhile_append_of_pos hds, hend.1, hend.2, List.append_nil]

theorem fraction_of_stops (h : Stops rest) : fraction rest = ([], rest) := by
  unfold fraction
  split
  · exact absurd (h '.' rfl) (by decide)
  · rfl

theorem exponent_of_stops (h : Stops rest) : exponent rest = (none, rest) := by
  unfold exponent
  split
  · rename_i e rest
    refine if_neg fun he => ?_
    rcases he with rfl | rfl
    · exact absurd (h 'e' rfl) (by decide)
    · exact absurd (h 'E' rfl) (by decide)
  · rfl

/-! ## Decimal texts -/

theorem isAsciiDigit_of_mem_toDigits (h : c ∈ Nat.toDigits 10 n) : isAsciiDigit c := by
  have hdigit := Nat.isDigit_of_mem_toDigits (by decide) (by decide) h
  simp only [Char.isDigit, Bool.and_eq_true, decide_eq_true_eq] at hdigit
  simp only [isAsciiDigit, Bool.and_eq_true, decide_eq_true_eq]
  exact hdigit

theorem ofAsciiDigits_toDigits (n : Nat) : ofAsciiDigits (Nat.toDigits 10 n) = n := by
  rw [ofAsciiDigits, Text.ofDigits, List.foldl_map]
  exact Nat.ofDigitChars_toDigits (by decide) (by decide)

/-- No decimal text starts with a zero but that of zero. -/
theorem head?_toDigits_ne : ∀ {n : Nat}, n ≠ 0 → (Nat.toDigits 10 n).head? ≠ some '0' := by
  intro n
  induction n using Nat.strongRecOn with
  | _ n ih =>
    intro hn
    by_cases hlt : n < 10
    · rw [Nat.toDigits_of_lt_base hlt]
      interval_cases n
      · exact absurd rfl hn
      all_goals decide
    · rw [Nat.toDigits_of_base_le (by decide) (by omega),
        List.head?_append_of_ne_nil _ Nat.toDigits_ne_nil]
      exact ih (n / 10) (by omega) (by omega)

/-- The digits before a point, and the rest; a zero stands alone. -/
def wholePart (cs : List Char) : List Char × List Char :=
  match cs with
  | '0' :: rest => (['0'], rest)
  | _ => asciiDigits cs

theorem wholePart_toDigits (n : Nat) (hrest : Stops rest) :
    wholePart (Nat.toDigits 10 n ++ rest) = (Nat.toDigits 10 n, rest) := by
  by_cases hn : n = 0
  · subst hn
    rfl
  · unfold wholePart
    split
    · rename_i heq
      have hhead := congrArg List.head? heq
      rw [List.head?_append_of_ne_nil _ Nat.toDigits_ne_nil] at hhead
      exact absurd hhead (head?_toDigits_ne hn)
    · exact asciiDigits_append (fun d => isAsciiDigit_of_mem_toDigits) hrest

theorem number_of_wholePart (negative : Bool) (h : wholePart cs = (whole, rest))
    (hne : whole ≠ []) (hlength : whole.length ≤ Text.maxDigits) (hrest : Stops rest) :
    number negative cs =
      .ok (.int (if negative then -(ofAsciiDigits whole : Int) else ofAsciiDigits whole),
        rest) := by
  unfold number
  split
  rename_i whole' rest' hparts
  have hsame : (whole', rest') = (whole, rest) := hparts.symm.trans h
  cases hsame
  rw [fraction_of_stops hrest]
  dsimp only
  rw [exponent_of_stops hrest, if_neg (by simpa using hne)]
  exact if_neg (Nat.not_lt.2 hlength)

/-- A number is read from its digits. -/
theorem number_toDigits (negative : Bool) (hn : n < 10 ^ Text.maxDigits) (hrest : Stops rest) :
    number negative (Nat.toDigits 10 n ++ rest) =
      .ok (.int (if negative then -(n : Int) else n), rest) := by
  have hlength : (Nat.toDigits 10 n).length ≤ Text.maxDigits :=
    (Nat.length_toDigits_le_iff (by decide) (by decide)).2 hn
  rw [number_of_wholePart negative (wholePart_toDigits n hrest) Nat.toDigits_ne_nil hlength hrest,
    ofAsciiDigits_toDigits]

theorem lt_pow_maxDigits (h : n < 10 ^ 20) : n < 10 ^ Text.maxDigits :=
  Nat.lt_of_lt_of_le h (Nat.pow_le_pow_right (by decide) (by decide))

/-! ## Values -/

theorem exists_ofNat_of_isAsciiDigit (h : isAsciiDigit c) : ∃ k < 10, c = Char.ofNat (48 + k) := by
  simp only [isAsciiDigit, Bool.and_eq_true, decide_eq_true_eq, Char.le_def,
    UInt32.le_iff_toNat_le] at h
  have hlow : 48 ≤ c.toNat := h.1
  have hhigh : c.toNat ≤ 57 := h.2
  refine ⟨c.toNat - 48, by omega, ?_⟩
  rw [Nat.add_sub_cancel' hlow, Char.ofNat_toNat]

theorem isGap_of_isAsciiDigit (h : isAsciiDigit c) : isGap c = false := by
  obtain ⟨k, hk, rfl⟩ := exists_ofNat_of_isAsciiDigit h
  interval_cases k <;> rfl

theorem ne_of_isAsciiDigit {d : Char} (h : isAsciiDigit c) (hd : isAsciiDigit d = false) :
    c ≠ d := by
  rintro rfl
  rw [hd] at h
  cases h

variable {depth fuel : Nat}

/-- A digit starts a number. -/
theorem value_digit (h : isAsciiDigit c) :
    value depth (fuel + 1) (c :: cs) = number false (c :: cs) := by
  obtain ⟨k, hk, rfl⟩ := exists_ofNat_of_isAsciiDigit h
  interval_cases k <;> rfl

/-- A digit after a minus sign starts a negative number. -/
theorem value_minus (h : isAsciiDigit c) :
    value depth (fuel + 1) ('-' :: c :: cs) = number true (c :: cs) := by
  obtain ⟨k, hk, rfl⟩ := exists_ofNat_of_isAsciiDigit h
  interval_cases k <;> rfl

/-- The decimal text of an integer starts with a digit, or with a minus sign and a digit. -/
theorem toList_toString_int (n : Int) : ∃ d ds, isAsciiDigit d ∧
    d :: ds = Nat.toDigits 10 n.natAbs ∧
      (toString n).toList = if n < 0 then '-' :: d :: ds else d :: ds := by
  obtain ⟨d, ds, hdigits⟩ := List.exists_cons_of_ne_nil (l := Nat.toDigits 10 n.natAbs)
    Nat.toDigits_ne_nil
  have hd : isAsciiDigit d := isAsciiDigit_of_mem_toDigits (hdigits ▸ List.mem_cons_self)
  refine ⟨d, ds, hd, hdigits.symm, ?_⟩
  rw [← hdigits]
  cases n with
  | ofNat m =>
    rw [if_neg (by simp)]
    exact String.toList_ofList
  | negSucc m =>
    rw [if_pos (Int.negSucc_lt_zero m)]
    change ("-" ++ String.ofList (Nat.toDigits 10 (m + 1))).toList = _
    rw [String.toList_append, String.toList_ofList, String.toList_ofList]
    rfl

/-- An integer is read from its decimal text. -/
theorem value_toString {n : Int} (hn : n.natAbs < 10 ^ Text.maxDigits) (hrest : Stops rest) :
    value depth (fuel + 1) ((toString n).toList ++ rest) = .ok (.int n, rest) := by
  obtain ⟨d, ds, hd, hdigits, htext⟩ := toList_toString_int n
  rw [htext]
  split
  · rw [List.cons_append, List.cons_append, value_minus hd, ← List.cons_append, hdigits,
      number_toDigits true hn hrest, if_pos rfl]
    have hneg : -(n.natAbs : Int) = n := by omega
    rw [hneg]
  · rw [List.cons_append, value_digit hd, ← List.cons_append, hdigits,
      number_toDigits false hn hrest, if_neg Bool.false_ne_true]
    have hpos : (n.natAbs : Int) = n := by omega
    rw [hpos]

end StackCompiler.Json.Reader
