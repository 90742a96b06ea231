/-!
# Base 64

Three bytes make four digits. `Base64.encode` pads the last group with `=`, and `Base64.decode?`
reads digits with or without the padding; it refuses a text whose last digit has bits to spare that
are not zero.
-/

namespace StackCompiler.Base64

/-- The two digits in which the alphabets differ. -/
structure Alphabet where
  digit62 : Char
  digit63 : Char

def Alphabet.standard : Alphabet := ⟨'+', '/'⟩

/-- The alphabet for URLs and file names. -/
def Alphabet.urlSafe : Alphabet := ⟨'-', '_'⟩

namespace Alphabet

def digit (a : Alphabet) (n : Nat) : Char :=
  if n < 26 then Char.ofNat (65 + n)
  else if n < 52 then Char.ofNat (97 + (n - 26))
  else if n < 62 then Char.ofNat (48 + (n - 52))
  else if n = 62 then a.digit62
  else a.digit63

def value? (a : Alphabet) (c : Char) : Option Nat :=
  if 'A' ≤ c ∧ c ≤ 'Z' then some (c.toNat - 65)
  else if 'a' ≤ c ∧ c ≤ 'z' then some (c.toNat - 97 + 26)
  else if '0' ≤ c ∧ c ≤ '9' then some (c.toNat - 48 + 52)
  else if c = a.digit62 then some 62
  else if c = a.digit63 then some 63
  else none

end Alphabet

/-- The digits of a byte sequence, as numbers below 64. -/
def sextets : List UInt8 → List Nat
  | [] => []
  | [a] => [a.toNat / 4, a.toNat % 4 * 16]
  | [a, b] => [a.toNat / 4, a.toNat % 4 * 16 + b.toNat / 16, b.toNat % 16 * 4]
  | a :: b :: c :: rest =>
    a.toNat / 4 :: (a.toNat % 4 * 16 + b.toNat / 16) :: (b.toNat % 16 * 4 + c.toNat / 64) ::
      c.toNat % 64 :: sextets rest

/-- The bytes that digits denote. -/
def ofSextets? : List Nat → Option (List UInt8)
  | [] => some []
  | [_] => none
  | [p, q] => if q % 16 = 0 then some [UInt8.ofNat (p * 4 + q / 16)] else none
  | [p, q, r] =>
    if r % 4 = 0 then
      some [UInt8.ofNat (p * 4 + q / 16), UInt8.ofNat (q % 16 * 16 + r / 4)]
    else none
  | p :: q :: r :: s :: rest =>
    (ofSextets? rest).map fun bs =>
      UInt8.ofNat (p * 4 + q / 16) :: UInt8.ofNat (q % 16 * 16 + r / 4) ::
        UInt8.ofNat (r % 4 * 64 + s) :: bs

def encodeUnpadded (a : Alphabet) (bs : List UInt8) : List Char := (sextets bs).map a.digit

def encode (a : Alphabet) (bs : List UInt8) : String :=
  let digits := encodeUnpadded a bs
  String.ofList (digits ++ List.replicate ((4 - digits.length % 4) % 4) '=')

/-- The bytes of a text. At most two `=` may end it, and only to fill the last group of four. -/
def decode? (a : Alphabet) (cs : List Char) : Option (List UInt8) := do
  let padding := (cs.reverse.takeWhile (· = '=')).length
  let digits := cs.take (cs.length - padding)
  if padding = 0 ∨ (padding ≤ 2 ∧ cs.length % 4 = 0) then
    let ns ← digits.mapM a.value?
    ofSextets? ns
  else none

/-- The digits up to the padding, all other characters being skipped; padding counts only where it
fills a group of four. `count` is the number of digits in the group, `pads` of padding. -/
def looseDigits (a : Alphabet) : Nat → Nat → List Char → List Nat × Bool
  | count, _, [] => ([], count = 0)
  | count, pads, c :: cs =>
    if c = '=' then
      if 2 ≤ count ∧ 4 ≤ count + (pads + 1) then ([], true)
      else looseDigits a count (if 2 ≤ count then pads + 1 else pads) cs
    else match a.value? c with
      | some n =>
        let (ns, isWhole) := looseDigits a ((count + 1) % 4) 0 cs
        (n :: ns, isWhole)
      | none => looseDigits a count pads cs

/-- The bytes of complete digits; the bits of an incomplete byte are dropped. -/
def ofLooseSextets : List Nat → List UInt8
  | p :: q :: r :: s :: rest =>
    UInt8.ofNat (p * 4 + q / 16) :: UInt8.ofNat (q % 16 * 16 + r / 4) ::
      UInt8.ofNat (r % 4 * 64 + s) :: ofLooseSextets rest
  | [p, q, r] => [UInt8.ofNat (p * 4 + q / 16), UInt8.ofNat (q % 16 * 16 + r / 4)]
  | [p, q] => [UInt8.ofNat (p * 4 + q / 16)]
  | _ => []

/-- The bytes of a text that may hold other characters between the digits. -/
def decodeLoose? (a : Alphabet) (cs : List Char) : Option (List UInt8) :=
  let (ns, isWhole) := looseDigits a 0 0 cs
  if isWhole then some (ofLooseSextets ns) else none

end StackCompiler.Base64
