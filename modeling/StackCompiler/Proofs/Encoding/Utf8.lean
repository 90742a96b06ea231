import StackCompiler.Encoding.Utf8

/-!
# Reading UTF-8 back

The bytes of a text are read back as the text, whatever bytes come after them
(`decodeLossyChars_encodeChars_append`).
-/

namespace StackCompiler.Utf8

variable {c : Char} {b : UInt8} {bs : List UInt8}

theorem toNat_ofNat_of_lt {n : Nat} (h : n < 256) : (UInt8.ofNat n).toNat = n := by
  simp [Nat.mod_eq_of_lt h]

theorem complete_cons {n low high acc m : Nat} (hm : m < 256) (hlow : low ≤ m) (hhigh : m ≤ high) :
    complete (n + 1) low high acc (UInt8.ofNat m :: bs) =
      complete n 0x80 0xBF (acc * 64 + (m - 0x80)) bs := by
  rw [complete, toNat_ofNat_of_lt hm, if_pos ⟨hlow, hhigh⟩]

theorem next_of_lead {m acc low high count : Nat} (hm : m < 256)
    (hlead : lead? m = some (acc, low, high, count)) {rest : List UInt8} {n : Nat}
    (hcomplete : complete count low high acc bs = (some n, rest)) :
    next (UInt8.ofNat m) bs = (some (Char.ofNat n), rest) := by
  rw [next, toNat_ofNat_of_lt hm, hlead]
  dsimp only
  rw [hcomplete]
  rfl

theorem lead?_two {m : Nat} (hlow : 0xC2 ≤ m) (hhigh : m < 0xE0) :
    lead? m = some (m - 0xC0, 0x80, 0xBF, 1) := by
  grind [lead?]

theorem lead?_three {m : Nat} (hlow : 0xE0 ≤ m) (hhigh : m < 0xF0) : lead? m =
    some (m - 0xE0, if m = 0xE0 then 0xA0 else 0x80, if m = 0xED then 0x9F else 0xBF, 2) := by
  grind [lead?]

theorem lead?_four {m : Nat} (hlow : 0xF0 ≤ m) (hhigh : m < 0xF5) : lead? m =
    some (m - 0xF0, if m = 0xF0 then 0x90 else 0x80, if m = 0xF4 then 0x8F else 0xBF, 3) := by
  grind [lead?]

section Next

variable {n : Nat}

theorem next_one (h : n < 0x80) : next (UInt8.ofNat n) bs = (some (Char.ofNat n), bs) :=
  next_of_lead (by omega) (if_pos h) rfl

theorem next_two (hlow : 0x80 ≤ n) (hhigh : n < 0x800) :
    next (UInt8.ofNat (n / 64 % 32 + 192)) (UInt8.ofNat (n % 64 + 128) :: bs) =
      (some (Char.ofNat n), bs) := by
  refine next_of_lead (by omega) (lead?_two (by omega) (by omega)) ?_
  rw [complete_cons (by omega) (by omega) (by omega), complete]
  have hn : (n / 64 % 32 + 192 - 0xC0) * 64 + (n % 64 + 128 - 0x80) = n := by omega
  rw [hn]

theorem next_three (hlow : 0x800 ≤ n) (hhigh : n < 0x10000) (hvalid : n < 0xD800 ∨ 0xDFFF < n) :
    next (UInt8.ofNat (n / 4096 % 16 + 224))
        (UInt8.ofNat (n / 64 % 64 + 128) :: UInt8.ofNat (n % 64 + 128) :: bs) =
      (some (Char.ofNat n), bs) := by
  refine next_of_lead (by omega) (lead?_three (by omega) (by omega)) ?_
  rw [complete_cons (by omega) (by split <;> omega) (by split <;> omega),
    complete_cons (by omega) (by omega) (by omega), complete]
  have hn : ((n / 4096 % 16 + 224 - 0xE0) * 64 + (n / 64 % 64 + 128 - 0x80)) * 64 +
      (n % 64 + 128 - 0x80) = n := by omega
  rw [hn]

theorem next_four (hlow : 0x10000 ≤ n) (hhigh : n < 0x110000) :
    next (UInt8.ofNat (n / 262144 % 8 + 240))
        (UInt8.ofNat (n / 4096 % 64 + 128) :: UInt8.ofNat (n / 64 % 64 + 128) ::
          UInt8.ofNat (n % 64 + 128) :: bs) =
      (some (Char.ofNat n), bs) := by
  refine next_of_lead (by omega) (lead?_four (by omega) (by omega)) ?_
  rw [complete_cons (by omega) (by split <;> omega) (by split <;> omega),
    complete_cons (by omega) (by omega) (by omega), complete_cons (by omega) (by omega) (by omega),
    complete]
  have hn : (((n / 262144 % 8 + 240 - 0xF0) * 64 + (n / 4096 % 64 + 128 - 0x80)) * 64 +
      (n / 64 % 64 + 128 - 0x80)) * 64 + (n % 64 + 128 - 0x80) = n := by omega
  rw [hn]

end Next

theorem toNat_valid (c : Char) : c.toNat < 0xD800 ∨ 0xDFFF < c.toNat ∧ c.toNat < 0x110000 :=
  c.valid

/-- The first byte of a character starts the reading of all its bytes. -/
theorem exists_next_encodeChar (c : Char) (rest : List UInt8) :
    ∃ b bs, encodeChar c = b :: bs ∧ next b (bs ++ rest) = (some c, rest) := by
  have hvalid := toNat_valid c
  have hback : Char.ofNat c.toNat = c := Char.ofNat_toNat c
  rw [← hback]
  generalize hn : c.toNat = n at hvalid
  have hchar : (Char.ofNat n).val.toNat = n := by
    rw [← hn, hback]
    rfl
  unfold encodeChar String.utf8EncodeChar
  dsimp only
  rw [hchar]
  split
  · exact ⟨_, _, rfl, next_one (by omega)⟩
  split
  · exact ⟨_, _, rfl, next_two (by omega) (by omega)⟩
  split
  · exact ⟨_, _, rfl, next_three (by omega) (by omega) (by omega)⟩
  · exact ⟨_, _, rfl, next_four (by omega) (by omega)⟩

theorem encodeChar_of_lt {c : Char} (h : c.toNat < 128) :
    encodeChar c = [UInt8.ofNat c.toNat] := if_pos (Nat.le_of_lt_succ h)

/-! ## All characters -/

theorem encodeChars_cons (c : Char) (cs : List Char) :
    encodeChars (c :: cs) = encodeChar c ++ encodeChars cs := List.flatMap_cons

theorem length_encodeChars : ∀ {cs : List Char}, (∀ c ∈ cs, c.toNat < 128) →
    (encodeChars cs).length = cs.length
  | [], _ => rfl
  | c :: cs, h => by
    obtain ⟨hc, hcs⟩ := List.forall_mem_cons.1 h
    rw [encodeChars_cons, encodeChar_of_lt hc, List.singleton_append, List.length_cons,
      length_encodeChars hcs, List.length_cons]

theorem length_complete_le : ∀ (n low high acc : Nat) (bs : List UInt8),
    (complete n low high acc bs).2.length ≤ bs.length
  | 0, _, _, _, _ => Nat.le_refl _
  | _ + 1, _, _, _, [] => Nat.le_refl _
  | n + 1, low, high, acc, b :: bs => by
    rw [complete]
    split
    · exact Nat.le_succ_of_le (length_complete_le n _ _ _ bs)
    · exact Nat.le_refl _

theorem length_next_le (b : UInt8) (bs : List UInt8) : (next b bs).2.length ≤ bs.length := by
  unfold next
  split
  · exact Nat.le_refl _
  · exact length_complete_le ..

/-- Any fuel that is enough for all bytes gives the same characters. -/
theorem go_eq_go : ∀ (fuel fuel' : Nat) (bs : List UInt8), bs.length ≤ fuel →
    bs.length ≤ fuel' → decodeAll.go fuel bs = decodeAll.go fuel' bs
  | 0, 0, _, _, _ => rfl
  | 0, _ + 1, [], _, _ => rfl
  | _ + 1, 0, [], _, _ => rfl
  | _ + 1, _ + 1, [], _, _ => rfl
  | fuel + 1, fuel' + 1, b :: bs, h, h' => by
    have hlength := length_next_le b bs
    rw [List.length_cons] at h h'
    change (next b bs).1 :: decodeAll.go fuel (next b bs).2 =
      (next b bs).1 :: decodeAll.go fuel' (next b bs).2
    rw [go_eq_go fuel fuel' _ (by omega) (by omega)]

theorem decodeAll_cons (b : UInt8) (bs : List UInt8) :
    decodeAll (b :: bs) = (next b bs).1 :: decodeAll (next b bs).2 := by
  change (next b bs).1 :: decodeAll.go bs.length (next b bs).2 = _
  rw [go_eq_go _ _ _ (length_next_le b bs) (Nat.le_refl _)]
  rfl

theorem decodeLossyChars_encodeChars_append (cs : List Char) (bs : List UInt8) :
    decodeLossyChars (encodeChars cs ++ bs) = cs ++ decodeLossyChars bs := by
  induction cs with
  | nil => rfl
  | cons c cs ih =>
    obtain ⟨b, more, hbytes, hnext⟩ := exists_next_encodeChar c (encodeChars cs ++ bs)
    have hsplit : encodeChars (c :: cs) ++ bs = b :: (more ++ (encodeChars cs ++ bs)) := by
      rw [encodeChars_cons, hbytes, List.append_assoc, List.cons_append]
    unfold decodeLossyChars at ih ⊢
    rw [hsplit, decodeAll_cons, hnext, List.map_cons, ih]
    rfl

theorem decodeLossyChars_encodeChars (cs : List Char) :
    decodeLossyChars (encodeChars cs) = cs := by
  have h := decodeLossyChars_encodeChars_append cs []
  rwa [List.append_nil, show decodeLossyChars [] = [] from rfl, List.append_nil] at h

end StackCompiler.Utf8
