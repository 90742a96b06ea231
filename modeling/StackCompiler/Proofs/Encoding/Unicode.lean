import StackCompiler.Encoding.Unicode
import StackCompiler.Proofs.Encoding.Utf8

/-!
# Detecting UTF-8

A text that starts with two ASCII characters, neither of them NUL, is read back from its UTF-8 bytes
without being told the form (`decode?_encode`).
-/

namespace StackCompiler.Unicode

open Utf8 (encodeChar encodeChars encode exists_next_encodeChar)

/-! ## Characters -/

/-- No character starts like an encoded surrogate. -/
theorem surrogate?_of_next {b : UInt8} {bs rest : List UInt8} {c : Char}
    (h : Utf8.next b bs = (some c, rest)) : ofUnits8?.surrogate? (b :: bs) = none := by
  unfold ofUnits8?.surrogate?
  split
  · rename_i b' c' rest' heq
    cases heq
    refine if_neg fun hrange => ?_
    have hlow : ¬(128 ≤ b'.toNat ∧ b'.toNat ≤ 159) := by
      have hb : 160 ≤ b'.toNat := hrange.1
      omega
    have hcomplete : Utf8.complete 2 0x80 0x9F 0xD (b' :: c' :: rest') =
        (none, b' :: c' :: rest') := by
      rw [Utf8.complete, if_neg hlow]
    have hlead : Utf8.lead? (0xED : UInt8).toNat = some (0xD, 0x80, 0x9F, 2) := rfl
    rw [Utf8.next, hlead] at h
    dsimp only at h
    rw [hcomplete] at h
    cases h
  · rfl

theorem ofUnits8?_encodeChars : ∀ {cs : List Char} {fuel : Nat},
    (encodeChars cs).length ≤ fuel → ofUnits8? fuel (encodeChars cs) = some cs
  | [], _, _ => by
    unfold ofUnits8?
    rfl
  | c :: cs, fuel, h => by
    obtain ⟨b, bs, hbytes, hnext⟩ := exists_next_encodeChar c (encodeChars cs)
    rw [Utf8.encodeChars_cons, hbytes] at h ⊢
    simp only [List.cons_append, List.length_cons, List.length_append] at h ⊢
    obtain ⟨fuel, rfl⟩ := Nat.exists_eq_add_of_lt (Nat.lt_of_lt_of_le (Nat.succ_pos _) h)
    rw [Nat.zero_add, ofUnits8?, surrogate?_of_next hnext, hnext]
    dsimp only
    rw [ofUnits8?_encodeChars (by omega)]
    rfl

/-! ## Texts -/

/-- Characters that show that a text is in units of one byte. -/
def IsShown (c : Char) : Prop := 0 < c.toNat ∧ c.toNat < 128

instance (c : Char) : Decidable (IsShown c) := inferInstanceAs (Decidable (_ ∧ _))

theorem detect_of_shown {b b' : UInt8} {bs : List UInt8} (hb : 0 < b.toNat ∧ b.toNat < 128)
    (hb' : 0 < b'.toNat) : Form.detect (b :: b' :: bs) = .utf8 0 := by
  have hne : ∀ n : UInt8, n.toNat = 0 ∨ 128 ≤ n.toNat → b ≠ n := by
    rintro n hn rfl
    omega
  have hne' : b' ≠ 0 := by
    rintro rfl
    exact absurd hb' (by decide)
  have hmark : Form.ofMark? (b :: b' :: bs) = none := by
    unfold Form.ofMark?
    split
    · rename_i heq
      exact absurd (List.cons.inj heq).1 (hne 0 (by decide))
    · rename_i heq
      exact absurd (List.cons.inj heq).1 (hne 0xFF (by decide))
    · rename_i heq
      exact absurd (List.cons.inj heq).1 (hne 0xFE (by decide))
    · rename_i heq
      exact absurd (List.cons.inj heq).1 (hne 0xFF (by decide))
    · rename_i heq
      exact absurd (List.cons.inj heq).1 (hne 0xEF (by decide))
    · rfl
  have hzeros : Form.ofZeros (b :: b' :: bs) = .utf8 0 := by
    unfold Form.ofZeros
    split
    · rename_i heq
      exact absurd (List.cons.inj heq).1 (hne 0 (by decide))
    · rename_i heq
      exact absurd (List.cons.inj (List.cons.inj heq).2).1 hne'
    · rename_i heq
      exact absurd (List.cons.inj heq).1 (hne 0 (by decide))
    · rename_i heq
      exact absurd (List.cons.inj (List.cons.inj heq).2).1 hne'
    · rfl
  rw [Form.detect, hmark, hzeros]
  rfl

theorem toNat_encodeChar {c : Char} (h : IsShown c) :
    ∃ b : UInt8, encodeChar c = [b] ∧ 0 < b.toNat ∧ b.toNat < 128 := by
  refine ⟨UInt8.ofNat c.toNat, Utf8.encodeChar_of_lt h.2, ?_⟩
  obtain ⟨hpos, hlt⟩ := h
  rw [Utf8.toNat_ofNat_of_lt (by omega)]
  exact ⟨hpos, hlt⟩

/-- A text is read back from its bytes. -/
theorem decode?_encode {text : String} {c d : Char} {cs : List Char}
    (h : text.toList = c :: d :: cs) (hc : IsShown c) (hd : IsShown d) :
    decode? (encode text) = some text := by
  obtain ⟨b, hb, hshown⟩ := toNat_encodeChar hc
  obtain ⟨b', hb', hpos, -⟩ := toNat_encodeChar hd
  have hbytes : encode text = b :: b' :: encodeChars cs := by
    rw [encode, h, Utf8.encodeChars_cons, Utf8.encodeChars_cons, hb, hb']
    rfl
  have hform : Form.detect (encode text) = .utf8 0 := by
    rw [hbytes, detect_of_shown hshown hpos]
  rw [decode?, hform, Form.decode?, List.drop_zero, encode, ofUnits8?_encodeChars (Nat.le_refl _)]
  exact congrArg some String.ofList_toList

end StackCompiler.Unicode
