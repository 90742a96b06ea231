import StackCompiler.Crypto.Sha256

/-!
# Keyed hashing and key derivation

HMAC and PBKDF2 over SHA-256. A `Hmac.Key` holds the states after the two blocks made from the key,
so that each tag costs the blocks of the message alone.
-/

namespace StackCompiler

namespace Hmac

/-- The states after the inner and the outer block of a key. -/
structure Key where
  inner : Sha256.State
  outer : Sha256.State

/-- A key of exactly one block: longer keys are hashed first, shorter ones filled with zeros. -/
def blockKey (key : List UInt8) : List UInt8 :=
  let key := if 64 < key.length then Sha256.hash key else key
  key ++ List.replicate (64 - key.length) 0

def Key.ofBytes (key : List UInt8) : Key :=
  let block := blockKey key
  { inner := Sha256.absorb .initial (Sha256.words (block.map (· ^^^ 0x36)))
    outer := Sha256.absorb .initial (Sha256.words (block.map (· ^^^ 0x5c))) }

/-- The tag of a message. -/
def tag (key : Key) (message : List UInt8) : List UInt8 :=
  let inner := Sha256.finish key.inner 64 message
  (Sha256.finish key.outer 64 inner.bytes).bytes

end Hmac

namespace Pbkdf2

def xorBytes (xs ys : List UInt8) : List UInt8 := List.zipWith (· ^^^ ·) xs ys

/-- The sum of `count` further tags, each the tag of the one before it. -/
def iterate (key : Hmac.Key) : Nat → List UInt8 → List UInt8 → List UInt8
  | 0, _, sum => sum
  | count + 1, last, sum =>
    let next := Hmac.tag key last
    iterate key count next (xorBytes sum next)

/-- One block of derived key: the first tag is of the salt and the number of the block. -/
def block (key : Hmac.Key) (salt : List UInt8) (iterations index : Nat) : List UInt8 :=
  let first := Hmac.tag key (salt ++ Sha256.bigEndian 4 index)
  iterate key (iterations - 1) first first

/-- A derived key of 32 bytes, which is one block. -/
def derive (password salt : List UInt8) (iterations : Nat) : List UInt8 :=
  block (Hmac.Key.ofBytes password) salt iterations 1

end Pbkdf2
end StackCompiler
