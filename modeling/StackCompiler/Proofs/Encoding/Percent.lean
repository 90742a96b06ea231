import Mathlib.Data.List.TakeDrop
import Mathlib.Data.List.TakeWhile
import StackCompiler.Encoding.Percent
import StackCompiler.Proofs.Encoding.Utf8
import StackCompiler.Proofs.Text.Mark

/-!
# Reading percent encoding back

An encoded text has unreserved characters and percent signs only (`mem_encode`), so it survives
inside an address and is read back as the text that it encodes (`decode_encode`).
-/

namespace StackCompiler.Percent

/-! ## Escapes -/

theorem hexValue?_hexDigit : ∀ n < 16, hexValue? (hexDigit n) = some n := by decide

theorem isUnreserved_hexDigit : ∀ n < 16, isUnreserved (hexDigit n) := by decide

theorem asciiBytes_escapeByte (b : UInt8) (cs : List Char) :
    asciiBytes (escapeByte b ++ cs) = b :: asciiBytes cs := by
  have hb : b.toNat < 256 := b.toNat_lt
  have hhigh := hexValue?_hexDigit (b.toNat / 16) (by omega)
  have hlow := hexValue?_hexDigit (b.toNat % 16) (by omega)
  have hback : b.toNat / 16 * 16 + b.toNat % 16 = b.toNat := by omega
  simp only [escapeByte, List.cons_append, List.nil_append, asciiBytes, hhigh, hlow, hback]
  rw [UInt8.ofNat_toNat]

theorem asciiBytes_escapes (bs : List UInt8) (cs : List Char) :
    asciiBytes (bs.flatMap escapeByte ++ cs) = bs ++ asciiBytes cs := by
  induction bs with
  | nil => rfl
  | cons b bs ih =>
    rw [List.flatMap_cons, List.append_assoc, asciiBytes_escapeByte, ih, List.cons_append]

theorem asciiBytes_cons {c : Char} (h : c ≠ '%') (cs : List Char) :
    asciiBytes (c :: cs) = UInt8.ofNat c.toNat :: asciiBytes cs := by
  rw [asciiBytes]
  rintro a b cs' rfl
  exact absurd rfl h

/-! ## Encoded texts -/

theorem toNat_of_isUnreserved {c : Char} (h : isUnreserved c) : 45 ≤ c.toNat ∧ c.toNat ≤ 126 := by
  change 45 ≤ c.val.toNat ∧ c.val.toNat ≤ 126
  rw [isUnreserved, Char.isAlphanum] at h
  delta Char.isAlpha Char.isUpper Char.isLower at h
  simp only [Char.isDigit, Bool.or_eq_true, Bool.and_eq_true, decide_eq_true_eq, beq_iff_eq,
    ge_iff_le, UInt32.le_iff_toNat_le] at h
  rcases h with ((((((⟨hl, hh⟩ | ⟨hl, hh⟩) | ⟨hl, hh⟩) | rfl) | rfl) | rfl) | rfl)
  · exact ⟨Nat.le_trans (by decide) hl, Nat.le_trans hh (by decide)⟩
  · exact ⟨Nat.le_trans (by decide) hl, Nat.le_trans hh (by decide)⟩
  · exact ⟨Nat.le_trans (by decide) hl, Nat.le_trans hh (by decide)⟩
  all_goals decide

theorem isUnreserved_lt {c : Char} (h : isUnreserved c) : c.toNat < 128 :=
  Nat.lt_of_le_of_lt (toNat_of_isUnreserved h).2 (by decide)

theorem asciiBytes_encodeChar (c : Char) (cs : List Char) :
    asciiBytes (encodeChar isUnreserved c ++ cs) = Utf8.encodeChar c ++ asciiBytes cs := by
  unfold encodeChar
  split
  · rename_i hkeep
    have hpercent : c ≠ '%' := by
      rintro rfl
      exact absurd hkeep (by decide)
    rw [List.singleton_append, asciiBytes_cons hpercent, Utf8.encodeChar_of_lt (isUnreserved_lt hkeep)]
    rfl
  · exact asciiBytes_escapes _ _

theorem asciiBytes_encode (cs : List Char) :
    asciiBytes (cs.flatMap (encodeChar isUnreserved)) = Utf8.encodeChars cs := by
  induction cs with
  | nil => rfl
  | cons c cs ih => rw [List.flatMap_cons, asciiBytes_encodeChar, ih, Utf8.encodeChars_cons]

theorem mem_escapes {bs : List UInt8} {c : Char} (h : c ∈ bs.flatMap escapeByte) :
    isUnreserved c ∨ c = '%' := by
  obtain ⟨b, -, hc⟩ := List.mem_flatMap.1 h
  have hb : b.toNat < 256 := b.toNat_lt
  simp only [escapeByte, List.mem_cons, List.not_mem_nil, or_false] at hc
  rcases hc with rfl | rfl | rfl
  · exact .inr rfl
  · exact .inl (isUnreserved_hexDigit _ (by omega))
  · exact .inl (isUnreserved_hexDigit _ (by omega))

theorem toList_encodeWith (keep : Char → Bool) (s : String) :
    (encodeWith keep s).toList = s.toList.flatMap (encodeChar keep) := String.toList_ofList

theorem mem_encodeWith {keep : Char → Bool} {s : String} {c : Char}
    (h : c ∈ (encodeWith keep s).toList) : keep c ∨ isUnreserved c ∨ c = '%' := by
  rw [toList_encodeWith] at h
  obtain ⟨d, -, hc⟩ := List.mem_flatMap.1 h
  unfold encodeChar at hc
  split at hc
  · rename_i hkeep
    rw [List.mem_singleton.1 hc]
    exact .inl hkeep
  · exact .inr (mem_escapes hc)

theorem mem_encode {s : String} {c : Char} (h : c ∈ (encode s).toList) :
    isUnreserved c ∨ c = '%' := (mem_encodeWith h).elim .inl id

theorem not_mem_encode {s : String} {c : Char} (hreserved : isUnreserved c = false)
    (hpercent : c ≠ '%') : c ∉ (encode s).toList := by
  intro h
  rcases mem_encode h with hc | hc
  · rw [hreserved] at hc
    cases hc
  · exact hpercent hc

theorem encodeWith_eq_self {keep : Char → Bool} {s : String} (h : ∀ c ∈ s.toList, keep c) :
    encodeWith keep s = s := by
  have hflat : ∀ cs : List Char, (∀ c ∈ cs, keep c) → cs.flatMap (encodeChar keep) = cs := by
    intro cs hcs
    induction cs with
    | nil => rfl
    | cons c cs ih =>
      obtain ⟨hc, hcs⟩ := List.forall_mem_cons.1 hcs
      rw [List.flatMap_cons, ih hcs, encodeChar, if_pos hc, List.singleton_append]
  rw [encodeWith, hflat _ h, String.ofList_toList]

/-! ## Marks in encoded texts -/

/-- The escapes of a character begin with a percent sign. -/
theorem exists_escapes (c : Char) : ∃ cs, (Utf8.encodeChar c).flatMap escapeByte = '%' :: cs := by
  obtain ⟨b, bs, hbytes, -⟩ := Utf8.exists_next_encodeChar c []
  rw [hbytes]
  exact ⟨_, rfl⟩

theorem prefix_of_prefix_encoded (keep : Char → Bool) : ∀ {mark cs : List Char}, '%' ∉ mark →
    mark <+: cs.flatMap (encodeChar keep) → mark <+: cs
  | [], _, _, _ => List.nil_prefix
  | _ :: _, [], _, h => h
  | d :: ds, c :: cs, hpercent, h => by
    rw [List.mem_cons, not_or] at hpercent
    rw [List.flatMap_cons, encodeChar] at h
    split at h
    · obtain ⟨rfl, hrest⟩ := List.cons_prefix_cons.1 h
      exact List.cons_prefix_cons.2 ⟨rfl, prefix_of_prefix_encoded keep hpercent.2 hrest⟩
    · obtain ⟨rest, hescapes⟩ := exists_escapes c
      rw [hescapes, List.cons_append] at h
      exact absurd (List.cons_prefix_cons.1 h).1.symm hpercent.1

/-- Encoding makes no mark that was not there before. -/
theorem infix_of_infix_encoded {keep : Char → Bool} {d : Char} {ds : List Char}
    (hd : isUnreserved d = false) (hpercent : '%' ∉ d :: ds) : ∀ {cs : List Char},
      d :: ds <:+: cs.flatMap (encodeChar keep) → d :: ds <:+: cs
  | [], h => h
  | c :: cs, h => by
    have hsplit := h
    rw [List.flatMap_cons, encodeChar] at hsplit
    split at hsplit
    · rcases List.infix_cons_iff.1 hsplit with hstart | hrest
      · refine (prefix_of_prefix_encoded keep hpercent ?_).isInfix
        rwa [List.flatMap_cons, encodeChar, if_pos ‹_›]
      · exact List.infix_cons (infix_of_infix_encoded hd hpercent hrest)
    · have hescapes : d ∉ (Utf8.encodeChar c).flatMap escapeByte := by
        intro hmem
        rcases mem_escapes hmem with h | rfl
        · rw [hd] at h
          cases h
        · exact hpercent (List.mem_cons_self ..)
      exact List.infix_cons
        (infix_of_infix_encoded hd hpercent (Text.infix_of_infix_append hescapes hsplit))

/-! ## Reading -/

theorem decodeChars_of_ascii {cs : List Char} (h : ∀ c ∈ cs, c.toNat < 128) :
    decodeChars cs = Utf8.decodeLossyChars (asciiBytes cs) := by
  cases cs with
  | nil => rfl
  | cons c cs =>
    have hspan : (c :: cs).span (·.toNat < 128) = (c :: cs, []) := by
      rw [List.span_eq_takeWhile_dropWhile, List.takeWhile_eq_self_iff.2 (by simpa using h),
        List.dropWhile_eq_nil_iff.2 (by simpa using h)]
    change decodeChars.go (cs.length + 1) (c :: cs) = _
    rw [decodeChars.go, if_pos (h c (List.mem_cons_self ..)), hspan]
    dsimp only
    cases cs.length <;> exact List.append_nil _

theorem decodeChars_encode (s : String) : decodeChars (encode s).toList = s.toList := by
  rw [decodeChars_of_ascii, encode, toList_encodeWith, asciiBytes_encode,
    Utf8.decodeLossyChars_encodeChars]
  intro c hc
  rcases mem_encode hc with hc | rfl
  · exact isUnreserved_lt hc
  · decide

theorem decode_encode (s : String) : decode (encode s) = s := by
  rw [decode, decodeChars_encode, String.ofList_toList]

end StackCompiler.Percent
