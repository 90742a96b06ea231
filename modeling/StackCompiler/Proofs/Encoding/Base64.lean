import Mathlib.Data.List.DropRight
import Mathlib.Data.List.TakeWhile
import StackCompiler.Encoding.Base64

/-!
# Reading base 64 back

The digits of a byte sequence are read back as the bytes, whether the last group is filled with
padding or not (`decode?_encode`, `decode?_encodeUnpadded`).
-/

namespace StackCompiler.Base64

/-! ## Digits -/

theorem sextets_lt : ∀ {bs : List UInt8}, ∀ n ∈ sextets bs, n < 64
  | [] => fun _ h => absurd h List.not_mem_nil
  | [a] => by
    have ha := a.toNat_lt
    simp only [sextets, List.forall_mem_cons]
    exact ⟨by omega, by omega, fun _ h => absurd h List.not_mem_nil⟩
  | [a, b] => by
    have ha := a.toNat_lt
    have hb := b.toNat_lt
    simp only [sextets, List.forall_mem_cons]
    exact ⟨by omega, by omega, by omega, fun _ h => absurd h List.not_mem_nil⟩
  | a :: b :: c :: rest => by
    have ha := a.toNat_lt
    have hb := b.toNat_lt
    have hc := c.toNat_lt
    simp only [sextets, List.forall_mem_cons]
    exact ⟨by omega, by omega, by omega, by omega, sextets_lt⟩

/-- A single digit never stands in a last group. -/
theorem length_sextets_mod : ∀ bs : List UInt8, (sextets bs).length % 4 ≠ 1
  | [] => by decide
  | [a] => by simp [sextets]
  | [a, b] => by simp [sextets]
  | a :: b :: c :: rest => by
    have ih := length_sextets_mod rest
    simp only [sextets, List.length_cons]
    omega

theorem ofSextets?_sextets : ∀ bs : List UInt8, ofSextets? (sextets bs) = some bs
  | [] => rfl
  | [a] => by
    have ha := a.toNat_lt
    have hbyte : a.toNat / 4 * 4 + a.toNat % 4 * 16 / 16 = a.toNat := by omega
    rw [sextets, ofSextets?, if_pos (by omega), hbyte, UInt8.ofNat_toNat]
  | [a, b] => by
    have ha := a.toNat_lt
    have hb := b.toNat_lt
    have hfirst : a.toNat / 4 * 4 + (a.toNat % 4 * 16 + b.toNat / 16) / 16 = a.toNat := by omega
    have hsecond : (a.toNat % 4 * 16 + b.toNat / 16) % 16 * 16 + b.toNat % 16 * 4 / 4 =
        b.toNat := by omega
    rw [sextets, ofSextets?, if_pos (by omega), hfirst, hsecond, UInt8.ofNat_toNat,
      UInt8.ofNat_toNat]
  | a :: b :: c :: rest => by
    have ha := a.toNat_lt
    have hb := b.toNat_lt
    have hc := c.toNat_lt
    have hfirst : a.toNat / 4 * 4 + (a.toNat % 4 * 16 + b.toNat / 16) / 16 = a.toNat := by omega
    have hsecond : (a.toNat % 4 * 16 + b.toNat / 16) % 16 * 16 +
        (b.toNat % 16 * 4 + c.toNat / 64) / 4 = b.toNat := by omega
    have hthird : (b.toNat % 16 * 4 + c.toNat / 64) % 4 * 64 + c.toNat % 64 = c.toNat := by omega
    rw [sextets, ofSextets?, ofSextets?_sextets rest, hfirst, hsecond, hthird, UInt8.ofNat_toNat,
      UInt8.ofNat_toNat, UInt8.ofNat_toNat]
    rfl

/-! ## Alphabets -/

/-- An alphabet whose digits are read back, none of them being one of some signs. -/
structure Alphabet.Spells (a : Alphabet) (signs : List Char) : Prop where
  value? : ∀ n < 64, a.value? (a.digit n) = some n
  notMem : ∀ n < 64, a.digit n ∉ signs

theorem spells_standard : Alphabet.standard.Spells ['='] := ⟨by decide, by decide⟩

theorem spells_urlSafe : Alphabet.urlSafe.Spells ['=', '.'] := ⟨by decide, by decide⟩

variable {a : Alphabet} {signs : List Char} {bs : List UInt8} {k : Nat}

theorem not_mem_encodeUnpadded (ha : a.Spells signs) {c : Char} (hc : c ∈ signs) :
    c ∉ encodeUnpadded a bs := by
  intro hmem
  obtain ⟨n, hn, rfl⟩ := List.mem_map.1 hmem
  exact ha.notMem n (sextets_lt n hn) hc

theorem mapM_value?_map_digit (ha : a.Spells signs) : ∀ {ns : List Nat}, (∀ n ∈ ns, n < 64) →
    (ns.map a.digit).mapM a.value? = some ns
  | [], _ => rfl
  | n :: ns, h => by
    obtain ⟨hn, hns⟩ := List.forall_mem_cons.1 h
    rw [List.map_cons, List.mapM_cons, ha.value? n hn, mapM_value?_map_digit ha hns]
    rfl

/-! ## Texts -/

theorem value?_of_mem_of_mapM : ∀ {cs : List Char} {ns : List Nat},
    cs.mapM a.value? = some ns → ∀ c ∈ cs, (a.value? c).isSome
  | [], _, _ => fun _ h => absurd h List.not_mem_nil
  | c :: cs, ns, h => by
    rw [List.mapM_cons] at h
    obtain ⟨n, hn, h⟩ := Option.bind_eq_some_iff.1 h
    obtain ⟨ns', hns', -⟩ := Option.bind_eq_some_iff.1 h
    exact List.forall_mem_cons.2 ⟨Option.isSome_iff_exists.2 ⟨n, hn⟩, value?_of_mem_of_mapM hns'⟩

/-- A character of a text is before the padding or part of it. -/
theorem mem_take_or {p : Char → Bool} {cs : List Char} {c : Char} (h : c ∈ cs) :
    c ∈ cs.take (cs.length - (cs.reverse.takeWhile p).length) ∨ p c := by
  have hsplit : cs.rdropWhile p ++ cs.rtakeWhile p = cs := List.rdropWhile_append_rtakeWhile
  have hpads : (cs.rtakeWhile p).length = (cs.reverse.takeWhile p).length := List.length_reverse
  have hlength := congrArg List.length hsplit
  rw [List.length_append, hpads] at hlength
  have hbefore : cs.take (cs.length - (cs.reverse.takeWhile p).length) = cs.rdropWhile p := by
    rw [← hlength, Nat.add_sub_cancel]
    exact (List.prefix_iff_eq_take.1 ⟨_, hsplit⟩).symm
  rw [hbefore]
  rw [← hsplit, List.mem_append] at h
  exact h.imp_right List.mem_rtakeWhile_imp

/-- A text that is read has digits and padding only. -/
theorem value?_of_decode? {cs : List Char} (h : decode? a cs = some bs) :
    ∀ c ∈ cs, c = '=' ∨ (a.value? c).isSome := by
  intro c hc
  unfold decode? at h
  dsimp only at h
  split at h
  · obtain ⟨ns, hns, -⟩ := Option.bind_eq_some_iff.1 h
    rcases mem_take_or hc with hdigit | hpad
    · exact .inr (value?_of_mem_of_mapM hns c hdigit)
    · exact .inl (of_decide_eq_true hpad)
  · cases h

/-- Signs of padding at the end of digits are counted as such. -/
theorem length_takeWhile_pads (ha : a.Spells signs) (hsign : '=' ∈ signs) :
    ((encodeUnpadded a bs ++ List.replicate k '=').reverse.takeWhile (· = '=')).length = k := by
  have hdigits : ∀ c ∈ (encodeUnpadded a bs).reverse, ¬decide (c = '=') = true := by
    intro c hc heq
    rw [of_decide_eq_true heq, List.mem_reverse] at hc
    exact not_mem_encodeUnpadded ha hsign hc
  have hpads : ∀ c ∈ List.replicate k '=', decide (c = '=') = true := fun c hc =>
    decide_eq_true (List.eq_of_mem_replicate hc)
  have hnone : (encodeUnpadded a bs).reverse.takeWhile (· = '=') = [] := by
    cases hcs : (encodeUnpadded a bs).reverse with
    | nil => rfl
    | cons c cs => exact List.takeWhile_cons_of_neg (hdigits c (hcs ▸ List.mem_cons_self))
  rw [List.reverse_append, List.reverse_replicate, List.takeWhile_append_of_pos hpads, hnone,
    List.append_nil, List.length_replicate]

/-- Digits are read with any padding that fills their last group, or with none. -/
theorem decode?_append_pads (ha : a.Spells signs) (hsign : '=' ∈ signs)
    (hk : k = 0 ∨ (k ≤ 2 ∧ (encodeUnpadded a bs ++ List.replicate k '=').length % 4 = 0)) :
    decode? a (encodeUnpadded a bs ++ List.replicate k '=') = some bs := by
  have hdigits : (encodeUnpadded a bs ++ List.replicate k '=').take
      ((encodeUnpadded a bs ++ List.replicate k '=').length - k) = encodeUnpadded a bs := by
    rw [List.length_append, List.length_replicate, Nat.add_sub_cancel]
    exact List.take_left
  unfold decode?
  dsimp only
  rw [length_takeWhile_pads ha hsign, if_pos hk, hdigits, encodeUnpadded,
    mapM_value?_map_digit ha sextets_lt]
  exact ofSextets?_sextets bs

/-- Digits without padding are read as the bytes that they were made of. -/
theorem decode?_encodeUnpadded (ha : a.Spells signs) (hsign : '=' ∈ signs) (bs : List UInt8) :
    decode? a (encodeUnpadded a bs) = some bs := by
  have h := @decode?_append_pads a signs bs 0 ha hsign (.inl rfl)
  rwa [List.replicate_zero, List.append_nil] at h

/-- A text in base 64 is read as the bytes that it was made of. -/
theorem decode?_encode (ha : a.Spells signs) (hsign : '=' ∈ signs) (bs : List UInt8) :
    decode? a (encode a bs).toList = some bs := by
  have hmod := length_sextets_mod bs
  have hlength : (encodeUnpadded a bs).length = (sextets bs).length := List.length_map ..
  rw [encode, String.toList_ofList]
  refine decode?_append_pads ha hsign (.inr ?_)
  rw [List.length_append, List.length_replicate, hlength]
  omega

end StackCompiler.Base64
