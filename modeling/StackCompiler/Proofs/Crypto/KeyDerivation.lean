import StackCompiler.Crypto.KeyDerivation

/-!
# Key derivation by its definition

A tag goes on from the states after the blocks of its key; it is the tag of the definition, two
hashes of whole messages (`Hmac.tag_ofBytes`). A key is derived in one pass; it is the sum of a
chain of tags (`Pbkdf2.derive_eq_sum`).
-/

namespace StackCompiler

/-! ## Hashing in parts -/

namespace Sha256

variable {s : State} {ws block : List UInt32} {bs message : List UInt8}

theorem length_bigEndian (count n : Nat) : (bigEndian count n).length = count := by
  rw [bigEndian, List.length_map, List.length_reverse, List.length_range]

theorem length_bytes (s : State) : s.bytes.length = 32 := by
  simp only [State.bytes, List.flatMap_cons, List.flatMap_nil, List.length_append,
    length_bigEndian, List.length_nil]

theorem length_hash (message : List UInt8) : (hash message).length = 32 := length_bytes _

theorem words_append : ∀ {bs : List UInt8} (rest : List UInt8), bs.length % 4 = 0 →
    words (bs ++ rest) = words bs ++ words rest
  | [], _, _ => rfl
  | [_], _, h | [_, _], _, h | [_, _, _], _, h => absurd h (by simp)
  | a :: b :: c :: d :: bs, rest, h => by
    rw [List.length_cons, List.length_cons, List.length_cons, List.length_cons] at h
    simp only [List.cons_append, words]
    rw [words_append rest (by omega)]

theorem length_words : ∀ {bs : List UInt8}, bs.length % 4 = 0 →
    (words bs).length = bs.length / 4
  | [], _ => rfl
  | [_], h | [_, _], h | [_, _, _], h => absurd h (by simp)
  | a :: b :: c :: d :: bs, h => by
    rw [List.length_cons, List.length_cons, List.length_cons, List.length_cons] at h
    have ih := @length_words bs (by omega)
    simp only [words, List.length_cons]
    omega

/-- A block is absorbed before what follows it. -/
theorem absorb_append (hblock : block.length = 16) :
    absorb s (block ++ ws) = absorb (absorb s block) ws := by
  have hfuel : (block ++ ws).length / 16 = ws.length / 16 + 1 := by
    rw [List.length_append]
    omega
  have hone : absorb s block = compress s block := by
    rw [absorb, hblock]
    change (if block.isEmpty then s else compress s (block.take 16)) = _
    rw [if_neg (by intro h; rw [List.isEmpty_iff.1 h] at hblock; cases hblock),
      List.take_of_length_le (Nat.le_of_eq hblock)]
  have hne : ¬(block ++ ws).isEmpty := by
    intro h
    rw [(List.append_eq_nil_iff.1 (List.isEmpty_iff.1 h)).1] at hblock
    cases hblock
  have hparts : (block ++ ws).drop 16 = ws ∧ (block ++ ws).take 16 = block := by
    rw [← hblock]
    exact ⟨List.drop_left, List.take_left⟩
  rw [hone, absorb, hfuel, absorb.go, if_neg hne, hparts.1, hparts.2]
  rfl

/-- A message is hashed from the state after its first block. -/
theorem finish_absorb (hbs : bs.length = 64) :
    finish (absorb .initial (words bs)) 64 message = finish .initial 0 (bs ++ message) := by
  have hmod : bs.length % 4 = 0 := by rw [hbs]
  have hblock : (words bs).length = 16 := by rw [length_words hmod, hbs]
  rw [finish, finish, List.length_append, hbs, Nat.zero_add, List.append_assoc,
    words_append _ hmod, absorb_append hblock]

end Sha256

/-! ## Tags -/

namespace Hmac

/-- The tag of a message by its definition: the key fills a block, which is combined with one of two
bytes, and the message is hashed after the one and the result after the other. -/
def tagOf (key message : List UInt8) : List UInt8 :=
  Sha256.hash ((blockKey key).map (· ^^^ 0x5c) ++
    Sha256.hash ((blockKey key).map (· ^^^ 0x36) ++ message))

theorem length_blockKey (key : List UInt8) : (blockKey key).length = 64 := by
  have hlength : (if 64 < key.length then Sha256.hash key else key).length ≤ 64 := by
    split
    · rw [Sha256.length_hash]
      decide
    · omega
  rw [blockKey, List.length_append, List.length_replicate, Nat.add_sub_cancel' hlength]

theorem length_tagOf (key message : List UInt8) : (tagOf key message).length = 32 :=
  Sha256.length_hash _

theorem tag_ofBytes (key message : List UInt8) :
    tag (.ofBytes key) message = tagOf key message := by
  have hlength : ∀ b : UInt8, ((blockKey key).map (· ^^^ b)).length = 64 := fun b => by
    rw [List.length_map, length_blockKey]
  have hfinish : ∀ (b : UInt8) (m : List UInt8),
      (Sha256.finish (Sha256.absorb .initial (Sha256.words ((blockKey key).map (· ^^^ b)))) 64
        m).bytes = Sha256.hash ((blockKey key).map (· ^^^ b) ++ m) := fun b m => by
    rw [Sha256.finish_absorb (hlength b)]
    rfl
  rw [tag, Key.ofBytes]
  dsimp only
  rw [hfinish, hfinish]
  rfl

end Hmac

/-! ## Derived keys -/

namespace Pbkdf2

variable {password salt : List UInt8} {iterations : Nat}

/-- A chain of tags: the first one is of the salt and the number of the block, and each other is of
the one before. -/
def chain (password salt : List UInt8) : Nat → List UInt8
  | 0 => Hmac.tagOf password (salt ++ [0, 0, 0, 1])
  | n + 1 => Hmac.tagOf password (chain password salt n)

/-- The sum of the first tags of the chain. -/
def sum (password salt : List UInt8) (iterations : Nat) : List UInt8 :=
  ((List.range iterations).map (chain password salt)).foldl xorBytes (List.replicate 32 0)

theorem length_chain (n : Nat) : (chain password salt n).length = 32 := by
  cases n with
  | zero => exact Hmac.length_tagOf _ _
  | succ n => exact Hmac.length_tagOf _ _

theorem xorBytes_zeros : ∀ xs : List UInt8, xorBytes (List.replicate xs.length 0) xs = xs
  | [] => rfl
  | x :: xs => by
    have ih := xorBytes_zeros xs
    rw [xorBytes] at ih
    rw [List.length_cons, List.replicate_succ, xorBytes, List.zipWith_cons_cons, ih,
      UInt8.zero_xor]

theorem length_foldl_xorBytes {n : Nat} : ∀ {xss : List (List UInt8)} {xs : List UInt8},
    xs.length = n → (∀ ys ∈ xss, ys.length = n) → (xss.foldl xorBytes xs).length = n
  | [], _, hxs, _ => hxs
  | ys :: xss, xs, hxs, h => by
    obtain ⟨hys, hxss⟩ := List.forall_mem_cons.1 h
    have hsum : (xorBytes xs ys).length = n := by
      rw [xorBytes, List.length_zipWith, hxs, hys, Nat.min_self]
    rw [List.foldl_cons]
    exact length_foldl_xorBytes hsum hxss

theorem length_sum (password salt : List UInt8) (iterations : Nat) :
    (sum password salt iterations).length = 32 := by
  refine length_foldl_xorBytes List.length_replicate fun ys hys => ?_
  obtain ⟨n, -, rfl⟩ := List.mem_map.1 hys
  exact length_chain n

/-- One pass adds the tags that come next in the chain. -/
theorem iterate_chain : ∀ (count n : Nat) (acc : List UInt8),
    iterate (.ofBytes password) count (chain password salt n) acc =
      ((List.range' (n + 1) count).map (chain password salt)).foldl xorBytes acc
  | 0, _, _ => rfl
  | count + 1, n, acc => by
    have hnext : Hmac.tag (.ofBytes password) (chain password salt n) =
        chain password salt (n + 1) := Hmac.tag_ofBytes ..
    rw [iterate, hnext, iterate_chain count (n + 1)]
    rfl

/-- A derived key is the sum of the tags, as many as there are iterations. -/
theorem derive_eq_sum (h : 0 < iterations) :
    derive password salt iterations = sum password salt iterations := by
  obtain ⟨count, rfl⟩ := Nat.exists_eq_add_of_lt h
  rw [Nat.zero_add]
  have hfirst : Hmac.tag (.ofBytes password) (salt ++ Sha256.bigEndian 4 1) =
      chain password salt 0 := Hmac.tag_ofBytes ..
  have hzeros : xorBytes (List.replicate 32 0) (chain password salt 0) = chain password salt 0 := by
    rw [← @length_chain password salt 0, xorBytes_zeros]
  rw [derive, block, hfirst, Nat.add_sub_cancel, iterate_chain, sum, List.range_eq_range',
    List.range'_succ, List.map_cons, List.foldl_cons, hzeros]

end Pbkdf2
end StackCompiler
