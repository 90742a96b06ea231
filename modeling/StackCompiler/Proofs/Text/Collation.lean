import StackCompiler.Proofs.Text.Order

/-!
# The order of display names

Folding keeps digits and makes no new ones, so the key of a display name has the numerals of the name
itself. Texts and numbers take turns in a key, and the name decides last: keys are put in a total
order in which a text never meets a number (`CollationKey.Comparable`), and names that go on from the
same text with two numerals are in the order of their values (`compare_of_value_lt`).
-/

namespace StackCompiler.Text

/-! ## Digits -/

/-- The zeros of all decimal digits. -/
def digitStarts : List Nat := 48 :: zeros

theorem isDigit_iff {c : Char} : isDigit c ↔ ∃ z ∈ digitStarts, z ≤ c.toNat ∧ c.toNat < z + 10 := by
  have hbeyond : ∀ z ∈ zeros, 128 ≤ z := by decide
  unfold isDigit digitValue?
  by_cases h : c.toNat < 128
  · rw [if_pos h]
    have hascii : ('0' ≤ c ∧ c ≤ '9') ↔ 48 ≤ c.toNat ∧ c.toNat < 48 + 10 := by
      rw [Char.le_def, Char.le_def, UInt32.le_iff_toNat_le, UInt32.le_iff_toNat_le]
      exact and_congr_right fun _ => Nat.lt_succ_iff.symm
    constructor
    · intro hsome
      split at hsome
      · exact ⟨48, List.mem_cons_self, hascii.1 ‹_›⟩
      · cases hsome
    · rintro ⟨z, hz, hle, hlt⟩
      rcases List.mem_cons.1 hz with rfl | hz
      · rw [if_pos (hascii.2 ⟨hle, hlt⟩)]
        rfl
      · exact absurd (hbeyond z hz) (by omega)
  · rw [if_neg h, Option.isSome_map, List.find?_isSome]
    simp only [Bool.and_eq_true, decide_eq_true_eq]
    constructor
    · rintro ⟨z, hz, hrange⟩
      exact ⟨z, List.mem_cons_of_mem _ hz, hrange⟩
    · rintro ⟨z, hz, hle, hlt⟩
      rcases List.mem_cons.1 hz with rfl | hz
      · omega
      · exact ⟨z, hz, hle, hlt⟩

/-- A code point that is that of a digit. -/
def IsDigitCode (n : Nat) : Prop := ∃ z ∈ digitStarts, z ≤ n ∧ n < z + 10

instance (n : Nat) : Decidable (IsDigitCode n) :=
  inferInstanceAs (Decidable (∃ z ∈ digitStarts, z ≤ n ∧ n < z + 10))

theorem isDigitCode_of_isDigit_ofNat {n : Nat} (h : isDigit (Char.ofNat n)) : IsDigitCode n := by
  have hcode : IsDigitCode (Char.ofNat n).toNat := isDigit_iff.1 h
  unfold Char.ofNat at hcode
  by_cases hn : n.isValidChar
  · rw [dif_pos hn] at hcode
    exact hcode
  · rw [dif_neg hn] at hcode
    exact absurd hcode (by decide)

/-! ## Folding -/

/-- No code point between two bounds is that of a digit. -/
def isApart (first last : Nat) : Bool :=
  digitStarts.all fun z => Nat.blt last z || Nat.ble (z + 10) first

theorem not_isDigitCode_of_isApart {first last n : Nat} (h : isApart first last)
    (hfirst : first ≤ n) (hlast : n ≤ last) : ¬IsDigitCode n := by
  rintro ⟨z, hz, hle, hlt⟩
  have hapart := List.all_eq_true.1 h z hz
  rw [Bool.or_eq_true, Nat.blt_eq, Nat.ble_eq] at hapart
  omega

/-- No code point of the run, nor any that it is moved to, is that of a digit. -/
def Shift.avoidsDigits (s : Shift) : Bool :=
  isApart s.run.first s.run.last &&
    isApart ((s.run.first : Int) + s.offset).toNat ((s.run.last : Int) + s.offset).toNat

theorem foldShifts_avoid : ∀ s ∈ CaseTable.foldShifts, s.avoidsDigits :=
  List.all_eq_true.1 (by decide +kernel)

theorem foldExpansions_avoid : ∀ e ∈ CaseTable.foldExpansions,
    ¬IsDigitCode e.1 ∧ e.2 ≠ [] ∧ ∀ n ∈ e.2, ¬IsDigitCode n := by
  have hall : CaseTable.foldExpansions.all fun e =>
      isApart e.1 e.1 && !e.2.isEmpty && e.2.all fun n => isApart n n := by decide +kernel
  intro e he
  have h := List.all_eq_true.1 hall e he
  simp only [Bool.and_eq_true, Bool.not_eq_true', List.isEmpty_eq_false_iff,
    List.all_eq_true] at h
  obtain ⟨⟨hapart, hne⟩, hcodes⟩ := h
  exact ⟨not_isDigitCode_of_isApart hapart (Nat.le_refl _) (Nat.le_refl _), hne, fun n hn =>
    not_isDigitCode_of_isApart (hcodes n hn) (Nat.le_refl _) (Nat.le_refl _)⟩

theorem Shift.not_isDigitCode_of_avoidsDigits {s : Shift} (h : s.avoidsDigits) {n m : Nat}
    (hmoved : s.moved? n = some m) : ¬IsDigitCode n ∧ ¬IsDigitCode m := by
  unfold moved? at hmoved
  split at hmoved
  · rename_i hcontains
    cases hmoved
    unfold Run.contains at hcontains
    simp only [Bool.and_eq_true, decide_eq_true_eq] at hcontains
    obtain ⟨⟨hfirst, hlast⟩, -⟩ := hcontains
    obtain ⟨hrun, himage⟩ := Bool.and_eq_true_iff.1 h
    exact ⟨not_isDigitCode_of_isApart hrun hfirst hlast,
      not_isDigitCode_of_isApart himage (by omega) (by omega)⟩
  · cases hmoved

theorem foldChar_of_isDigit {c : Char} (h : isDigit c) : foldChar c = [c] := by
  unfold foldChar
  split
  · have hascii : ∀ n < 128, isDigit (Char.ofNat n) → (Char.ofNat n).toLower = Char.ofNat n := by
      decide +kernel
    have hlower := hascii c.toNat ‹_›
    rw [Char.ofNat_toNat] at hlower
    rw [hlower h]
  · have hcode : IsDigitCode c.toNat := isDigit_iff.1 h
    have hexpansion : CaseTable.foldExpansions.lookup c.toNat = none := by
      rw [List.lookup_eq_none_iff]
      intro e he
      have hne : c.toNat ≠ e.1 := fun heq => (foldExpansions_avoid e he).1 (heq ▸ hcode)
      simpa using hne
    have hshift : CaseTable.foldShifts.findSome? (·.moved? c.toNat) = none := by
      rw [List.findSome?_eq_none_iff]
      intro s hs
      cases hmoved : s.moved? c.toNat with
      | none => rfl
      | some n =>
        exact absurd hcode
          (Shift.not_isDigitCode_of_avoidsDigits (foldShifts_avoid s hs) hmoved).1
    rw [image, hexpansion, hshift]

theorem foldChar_of_not_isDigit {c : Char} (h : ¬isDigit c) :
    foldChar c ≠ [] ∧ ∀ d ∈ foldChar c, ¬isDigit d := by
  unfold foldChar
  split
  · have hascii : ∀ n < 128, ¬isDigit (Char.ofNat n) → ¬isDigit (Char.ofNat n).toLower := by
      decide +kernel
    have hlower := hascii c.toNat ‹_›
    rw [Char.ofNat_toNat] at hlower
    exact ⟨by simp, by simpa using hlower h⟩
  · unfold image
    split
    · rename_i ns hexpansion
      obtain ⟨-, hne, hcodes⟩ := foldExpansions_avoid _ (mem_of_lookup_eq_some hexpansion)
      refine ⟨by simpa using hne, fun d hd hdigit => ?_⟩
      obtain ⟨n, hn, rfl⟩ := List.mem_map.1 hd
      exact hcodes n hn (isDigitCode_of_isDigit_ofNat hdigit)
    · split
      · rename_i n hshift
        obtain ⟨s, hs, hmoved⟩ := List.exists_of_findSome?_eq_some hshift
        refine ⟨by simp, fun d hd hdigit => ?_⟩
        rw [List.mem_singleton.1 hd] at hdigit
        exact (Shift.not_isDigitCode_of_avoidsDigits (foldShifts_avoid s hs) hmoved).2
          (isDigitCode_of_isDigit_ofNat hdigit)
      · exact ⟨by simp, by simpa using h⟩

theorem foldChars_cons (c : Char) (cs : List Char) :
    foldChars (c :: cs) = foldChar c ++ foldChars cs := List.flatMap_cons

theorem foldChars_eq_nil_iff {cs : List Char} : foldChars cs = [] ↔ cs = [] := by
  refine ⟨fun h => ?_, fun h => by rw [h]; rfl⟩
  cases cs with
  | nil => rfl
  | cons c cs =>
    rw [foldChars_cons, List.append_eq_nil_iff] at h
    by_cases hc : isDigit c
    · rw [foldChar_of_isDigit hc] at h
      exact absurd h.1 (List.cons_ne_nil c [])
    · exact absurd h.1 (foldChar_of_not_isDigit hc).1

/-! ## Cutting -/

theorem cutAtDigits_cons_of_not_isDigit {c : Char} (h : ¬isDigit c) (cs : List Char) :
    cutAtDigits (c :: cs) = (c :: (cutAtDigits cs).1, (cutAtDigits cs).2) := by
  rw [cutAtDigits]
  exact if_neg h

theorem cutAtDigits_append_of_not_isDigit {ds : List Char} (h : ∀ d ∈ ds, ¬isDigit d)
    (cs : List Char) :
    cutAtDigits (ds ++ cs) = (ds ++ (cutAtDigits cs).1, (cutAtDigits cs).2) := by
  induction ds with
  | nil => rfl
  | cons d ds ih =>
    obtain ⟨hd, hds⟩ := List.forall_mem_cons.1 h
    rw [List.cons_append, cutAtDigits_cons_of_not_isDigit hd, ih hds]
    rfl

/-- A digit before a stretch of digits joins it. -/
theorem cutAtDigits_cons_join {c : Char} {cs digits tail : List Char}
    {rest : List (List Char × List Char)} (hc : isDigit c)
    (h : cutAtDigits cs = ([], (digits, tail) :: rest)) :
    cutAtDigits (c :: cs) = ([], (c :: digits, tail) :: rest) := by
  rw [cutAtDigits, h]
  dsimp only
  rw [if_pos hc]

/-- A digit before anything else is a stretch of its own. -/
theorem cutAtDigits_cons_new {c : Char} {cs : List Char} (hc : isDigit c)
    (h : (cutAtDigits cs).1 = [] → (cutAtDigits cs).2 = []) :
    cutAtDigits (c :: cs) = ([], ([c], (cutAtDigits cs).1) :: (cutAtDigits cs).2) := by
  rw [cutAtDigits]
  rcases hcut : cutAtDigits cs with ⟨plain, rest⟩
  rw [hcut] at h
  dsimp only at h ⊢
  rw [if_pos hc]
  split
  · exact absurd (h rfl) (List.cons_ne_nil _ _)
  · rfl

/-- Either there are digits at the start, or there is nothing at all, or a text without digits. -/
theorem cutAtDigits_cases (cs : List Char) :
    (∃ digits tail rest, cutAtDigits cs = ([], (digits, tail) :: rest)) ∨
      ((cutAtDigits cs).1 = [] → (cutAtDigits cs).2 = []) := by
  rcases cutAtDigits cs with ⟨_ | ⟨c, plain⟩, _ | ⟨⟨digits, tail⟩, rest⟩⟩
  · exact .inr fun _ => rfl
  · exact .inl ⟨digits, tail, rest, rfl⟩
  · exact .inr fun _ => rfl
  · exact .inr fun h => absurd h (List.cons_ne_nil _ _)

/-- The folded text is cut where the text is. -/
theorem cutAtDigits_foldChars (cs : List Char) : cutAtDigits (foldChars cs) =
    (foldChars (cutAtDigits cs).1, (cutAtDigits cs).2.map fun p => (p.1, foldChars p.2)) := by
  induction cs with
  | nil => rfl
  | cons c cs ih =>
    rw [foldChars_cons]
    by_cases hc : isDigit c
    · rw [foldChar_of_isDigit hc, List.singleton_append]
      rcases cutAtDigits_cases cs with ⟨digits, tail, rest, hcut⟩ | hnew
      · rw [hcut] at ih
        rw [cutAtDigits_cons_join hc hcut, cutAtDigits_cons_join hc ih]
        rfl
      · rw [cutAtDigits_cons_new hc hnew, cutAtDigits_cons_new hc, ih]
        · rfl
        · rw [ih]
          intro hnil
          rw [hnew (foldChars_eq_nil_iff.1 hnil)]
          rfl
    · obtain ⟨-, hplain⟩ := foldChar_of_not_isDigit hc
      rw [cutAtDigits_append_of_not_isDigit hplain, cutAtDigits_cons_of_not_isDigit hc, ih,
        foldChars_cons]

/-- What does not start with a digit has no stretch of digits without a text before it. -/
theorem snd_cutAtDigits_eq_nil {cs : List Char} (hstart : ∀ c ∈ cs.head?, ¬isDigit c)
    (h : (cutAtDigits cs).1 = []) : (cutAtDigits cs).2 = [] := by
  cases cs with
  | nil => rfl
  | cons c cs =>
    have hc : ¬isDigit c := hstart c rfl
    rw [cutAtDigits_cons_of_not_isDigit hc] at h
    exact absurd h (List.cons_ne_nil _ _)

theorem cutAtDigits_numeral_append {digits rest : List Char} (hne : digits ≠ [])
    (hdigits : ∀ c ∈ digits, isDigit c) (hrest : ∀ c ∈ rest.head?, ¬isDigit c) :
    cutAtDigits (digits ++ rest) =
      ([], (digits, (cutAtDigits rest).1) :: (cutAtDigits rest).2) := by
  induction digits with
  | nil => exact absurd rfl hne
  | cons c digits ih =>
    obtain ⟨hc, hdigits⟩ := List.forall_mem_cons.1 hdigits
    rw [List.cons_append]
    by_cases hnil : digits = []
    · rw [hnil, List.nil_append, cutAtDigits_cons_new hc (snd_cutAtDigits_eq_nil hrest)]
    · exact cutAtDigits_cons_join hc (ih hnil hdigits)

/-- A text that does not end with a digit is cut where something begins that has digits first. -/
theorem cutAtDigits_append_of_fst_eq_nil {before after : List Char}
    (hend : ∀ c ∈ before.getLast?, ¬isDigit c) (h : (cutAtDigits after).1 = []) :
    cutAtDigits (before ++ after) =
      ((cutAtDigits before).1, (cutAtDigits before).2 ++ (cutAtDigits after).2) := by
  induction before with
  | nil => exact Prod.ext h rfl
  | cons c before ih =>
    rw [List.cons_append]
    by_cases hc : isDigit c
    · obtain ⟨d, before, rfl⟩ : ∃ d rest, before = d :: rest := by
        refine List.exists_cons_of_ne_nil ?_
        rintro rfl
        exact hend c rfl hc
      have hcut := ih (by simpa using hend)
      rcases cutAtDigits_cases (d :: before) with ⟨digits, tail, rest, hjoin⟩ | hnew
      · rw [hjoin] at hcut
        rw [cutAtDigits_cons_join hc hjoin, cutAtDigits_cons_join hc hcut]
        rfl
      · have hplain : (cutAtDigits (d :: before)).1 ≠ [] := by
          intro hnil
          have happend := cutAtDigits_append (d :: before)
          rw [hnil, hnew hnil] at happend
          exact absurd happend.symm (List.cons_ne_nil d before)
        rw [cutAtDigits_cons_new hc hnew, cutAtDigits_cons_new hc, hcut]
        · rfl
        · rw [hcut]
          exact fun hnil => absurd hnil hplain
    · have hbefore : ∀ d ∈ before.getLast?, ¬isDigit d := by
        cases before with
        | nil => exact fun _ h => by cases h
        | cons d before => simpa using hend
      rw [cutAtDigits_cons_of_not_isDigit hc, cutAtDigits_cons_of_not_isDigit hc, ih hbefore]

theorem cutAtDigits_around_numeral {before digits after : List Char}
    (hend : ∀ c ∈ before.getLast?, ¬isDigit c) (hne : digits ≠ [])
    (hdigits : ∀ c ∈ digits, isDigit c) (hstart : ∀ c ∈ after.head?, ¬isDigit c) :
    cutAtDigits (before ++ (digits ++ after)) = ((cutAtDigits before).1,
      (cutAtDigits before).2 ++ (digits, (cutAtDigits after).1) :: (cutAtDigits after).2) := by
  have hcut := cutAtDigits_numeral_append hne hdigits hstart
  rw [cutAtDigits_append_of_fst_eq_nil hend (by rw [hcut]), hcut]

/-! ## Keys -/

/-- No more digits stand in a row than can be read. -/
def HasShortRuns (s : String) : Prop :=
  ∀ digits, digits <:+: s.toList → (∀ c ∈ digits, isDigit c) → digits.length ≤ maxDigits

theorem hasShortRuns_iff_hasShortNumerals {s : String} : HasShortRuns s ↔ HasShortNumerals s := by
  rw [hasShortNumerals_iff, HasShortRuns, forall_infix_length_le_iff, cutAtDigits_foldChars,
    List.forall_mem_map]

/-- Texts and numbers in turn. -/
def piecesOf (plain : List Char) (rest : List (List Char × List Char)) : List Piece :=
  .text (String.ofList plain) :: rest.flatMap fun p =>
    [.number (ofDigits (p.1.filterMap digitValue?)), .text (String.ofList p.2)]

theorem collationKey?_eq_some_iff {s : String} {k : CollationKey} :
    collationKey? s = some k ↔ HasShortRuns s ∧
      k = ⟨piecesOf (foldChars (cutAtDigits s.toList).1)
        ((cutAtDigits s.toList).2.map fun p => (p.1, foldChars p.2)), s⟩ := by
  rw [hasShortRuns_iff_hasShortNumerals, ← collationKey?_isSome_iff]
  unfold collationKey?
  rw [cutAtDigits_foldChars]
  dsimp only
  split
  · exact iff_of_false (fun h => by cases h) fun h => absurd h.1 Bool.false_ne_true
  · rw [Option.some_inj, eq_comm]
    exact (and_iff_right rfl).symm

namespace Piece

def isNumber : Piece → Bool
  | text _ => false
  | number _ => true

end Piece

theorem isNumber_of_piecesOf {piece : Piece} : ∀ {plain rest} {i : Nat},
    (piecesOf plain rest)[i]? = some piece → piece.isNumber = (i % 2 == 1)
  | plain, rest, 0, h => by
    cases h
    rfl
  | plain, [], i + 1, h => by cases h
  | plain, p :: rest, 1, h => by
    cases h
    rfl
  | plain, p :: rest, i + 2, h => by
    rw [Nat.add_mod_right]
    exact @isNumber_of_piecesOf piece p.2 rest i h

namespace CollationKey

/-- Where both keys have a piece, both are texts or both are numbers. -/
def Comparable (k l : CollationKey) : Prop :=
  ∀ (i : Nat) (x y : Piece), k.pieces[i]? = some x → l.pieces[i]? = some y →
    x.isNumber = y.isNumber

end CollationKey

theorem comparable_of_collationKey? {s t : String} {k l : CollationKey}
    (hk : collationKey? s = some k) (hl : collationKey? t = some l) : k.Comparable l := by
  obtain ⟨-, rfl⟩ := collationKey?_eq_some_iff.1 hk
  obtain ⟨-, rfl⟩ := collationKey?_eq_some_iff.1 hl
  intro i x y hx hy
  rw [isNumber_of_piecesOf hx, isNumber_of_piecesOf hy]

theorem collationKey?_injective {s t : String} {k : CollationKey}
    (hs : collationKey? s = some k) (ht : collationKey? t = some k) : s = t := by
  obtain ⟨-, rfl⟩ := collationKey?_eq_some_iff.1 hs
  exact congrArg CollationKey.raw (collationKey?_eq_some_iff.1 ht).2

/-! ## Total orders -/

theorem transCmp_comap {α β : Type} {cmp : β → β → Ordering} [Std.TransCmp cmp] (f : α → β) :
    Std.TransCmp fun a b => cmp (f a) (f b) where
  eq_swap := Std.OrientedCmp.eq_swap
  isLE_trans := Std.TransCmp.isLE_trans

namespace Piece

instance : Std.OrientedCmp Piece.compare where
  eq_swap {a b} := by
    cases a with
    | text s => cases b with
      | text t => exact Std.OrientedOrd.eq_swap (a := s)
      | number n => rfl
    | number m => cases b with
      | text t => rfl
      | number n => exact Std.OrientedOrd.eq_swap (a := m)

instance : Std.TransCmp Piece.compare where
  isLE_trans {a b c} hab hbc := by
    cases a with
    | text s => cases c with
      | number n => rfl
      | text u => cases b with
        | text t => exact Std.TransOrd.isLE_trans (a := s) hab hbc
        | number n => cases hbc
    | number m => cases b with
      | text t => cases hab
      | number n => cases c with
        | text u => cases hbc
        | number l => exact Std.TransOrd.isLE_trans (a := m) hab hbc

instance : Std.LawfulEqCmp Piece.compare where
  compare_self {a} := by
    cases a with
    | text s => exact Std.ReflOrd.compare_self (a := s)
    | number n => exact Std.ReflOrd.compare_self (a := n)
  eq_of_compare {a b} h := by
    cases a with
    | text s => cases b with
      | text t => exact congrArg _ (Std.LawfulEqOrd.eq_of_compare h)
      | number n => cases h
    | number m => cases b with
      | text t => cases h
      | number n => exact congrArg _ (Std.LawfulEqOrd.eq_of_compare h)

end Piece

namespace CollationKey

instance : Std.TransCmp CollationKey.compare :=
  haveI : Std.TransCmp fun k l : CollationKey => List.compareLex Piece.compare k.pieces l.pieces :=
    transCmp_comap CollationKey.pieces
  inferInstanceAs (Std.TransCmp (compareLex
    (fun k l : CollationKey => List.compareLex Piece.compare k.pieces l.pieces)
    (compareOn CollationKey.raw)))

theorem compare_eq_iff {k l : CollationKey} : k.compare l = .eq ↔ k = l := by
  rw [CollationKey.compare, Ordering.then_eq_eq, Std.LawfulEqCmp.compare_eq_iff_eq,
    Std.LawfulEqCmp.compare_eq_iff_eq]
  cases k
  cases l
  rw [CollationKey.mk.injEq]

end CollationKey

/-! ## Names with numerals -/

theorem compareLex_append_of_ne_eq {α : Type} {cmp : α → α → Ordering} [Std.ReflCmp cmp] {a b : α}
    {as bs : List α} (h : cmp a b ≠ .eq) : ∀ common : List α,
    List.compareLex cmp (common ++ a :: as) (common ++ b :: bs) = cmp a b
  | [] => by
    rw [List.nil_append, List.nil_append, List.compareLex_cons_cons]
    cases hab : cmp a b <;> simp_all
  | c :: common => by
    have hself : cmp c c = .eq := Std.ReflCmp.compare_self
    rw [List.cons_append, List.cons_append, List.compareLex_cons_cons, hself]
    exact compareLex_append_of_ne_eq h common

/-- Digits and nothing else. -/
def IsNumeral (m : String) : Prop := m.toList ≠ [] ∧ ∀ c ∈ m.toList, isDigit c

/-- The number that a numeral denotes. -/
def numeralValue (m : String) : Nat := ofDigits (m.toList.filterMap digitValue?)

theorem pieces_around_numeral {p m q : String} {k : CollationKey}
    (hp : ∀ c ∈ p.toList.getLast?, ¬isDigit c) (hm : IsNumeral m)
    (hq : ∀ c ∈ q.toList.head?, ¬isDigit c) (hk : collationKey? (p ++ m ++ q) = some k) :
    ∃ rest, k.pieces = piecesOf (foldChars (cutAtDigits p.toList).1)
      ((cutAtDigits p.toList).2.map fun p => (p.1, foldChars p.2)) ++
        .number (numeralValue m) :: rest := by
  obtain ⟨-, rfl⟩ := collationKey?_eq_some_iff.1 hk
  dsimp only
  rw [String.toList_append, String.toList_append, List.append_assoc,
    cutAtDigits_around_numeral hp hm.1 hm.2 hq, List.map_append, List.map_cons]
  refine ⟨piecesOf (foldChars (cutAtDigits q.toList).1)
    ((cutAtDigits q.toList).2.map fun p => (p.1, foldChars p.2)), ?_⟩
  simp only [piecesOf, numeralValue, List.flatMap_append, List.flatMap_cons, List.cons_append,
    List.nil_append]

/-- Names that go on from the same text with two numerals are in the order of their values. -/
theorem compare_of_value_lt {p m n q r : String} {k l : CollationKey}
    (hp : ∀ c ∈ p.toList.getLast?, ¬isDigit c) (hm : IsNumeral m) (hn : IsNumeral n)
    (hq : ∀ c ∈ q.toList.head?, ¬isDigit c) (hr : ∀ c ∈ r.toList.head?, ¬isDigit c)
    (hlt : numeralValue m < numeralValue n) (hk : collationKey? (p ++ m ++ q) = some k)
    (hl : collationKey? (p ++ n ++ r) = some l) : k.compare l = .lt := by
  obtain ⟨rest, hpieces⟩ := pieces_around_numeral hp hm hq hk
  obtain ⟨rest', hpieces'⟩ := pieces_around_numeral hp hn hr hl
  have hcompare : Piece.compare (.number (numeralValue m)) (.number (numeralValue n)) = .lt :=
    Nat.compare_eq_lt.2 hlt
  rw [CollationKey.compare, hpieces, hpieces', compareLex_append_of_ne_eq (by rw [hcompare]; decide),
    hcompare]
  rfl

end StackCompiler.Text
