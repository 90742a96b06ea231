/-!
# UTF-8

`Utf8.encode` gives the bytes of a text. `Utf8.decodeAll` reads bytes into characters and marks
each longest beginning of a character that is not completed; `decode?` refuses such bytes and
`decodeLossy` puts the replacement character for them.
-/

namespace StackCompiler.Utf8

def encodeChar (c : Char) : List UInt8 := String.utf8EncodeChar c

def encodeChars (cs : List Char) : List UInt8 := cs.flatMap encodeChar

def encode (s : String) : List UInt8 := encodeChars s.toList

/-- What a first byte promises: the bits of its own, the range of the next byte, and how many
bytes follow. -/
def lead? (b : Nat) : Option (Nat × Nat × Nat × Nat) :=
  if b < 0x80 then some (b, 0x80, 0xBF, 0)
  else if b < 0xC2 then none
  else if b < 0xE0 then some (b - 0xC0, 0x80, 0xBF, 1)
  else if b = 0xE0 then some (0, 0xA0, 0xBF, 2)
  else if b = 0xED then some (0xD, 0x80, 0x9F, 2)
  else if b < 0xF0 then some (b - 0xE0, 0x80, 0xBF, 2)
  else if b = 0xF0 then some (0, 0x90, 0xBF, 3)
  else if b < 0xF4 then some (b - 0xF0, 0x80, 0xBF, 3)
  else if b = 0xF4 then some (4, 0x80, 0x8F, 3)
  else none

/-- The code point after `count` more bytes, the first of them between `low` and `high`; none when
a byte does not fit, which then stays in the rest. -/
def complete : Nat → Nat → Nat → Nat → List UInt8 → Option Nat × List UInt8
  | 0, _, _, acc, bs => (some acc, bs)
  | _ + 1, _, _, _, [] => (none, [])
  | n + 1, low, high, acc, b :: bs =>
    if low ≤ b.toNat ∧ b.toNat ≤ high then complete n 0x80 0xBF (acc * 64 + (b.toNat - 0x80)) bs
    else (none, b :: bs)

/-- The character that starts with a byte, and the bytes after it. -/
def next (b : UInt8) (bs : List UInt8) : Option Char × List UInt8 :=
  match lead? b.toNat with
  | none => (none, bs)
  | some (acc, low, high, count) =>
    let (n, rest) := complete count low high acc bs
    (n.map Char.ofNat, rest)

/-- The characters of a byte sequence, with `none` for what is no character. -/
def decodeAll (bs : List UInt8) : List (Option Char) :=
  let rec go : Nat → List UInt8 → List (Option Char)
    | 0, _ => []
    | _ + 1, [] => []
    | fuel + 1, b :: bs =>
      let (c, rest) := next b bs
      c :: go fuel rest
  go bs.length bs

/-- The text that a byte sequence encodes. -/
def decode? (bs : List UInt8) : Option String := ((decodeAll bs).mapM id).map String.ofList

def decodeLossyChars (bs : List UInt8) : List Char := (decodeAll bs).map (·.getD '\uFFFD')

/-- The text that a byte sequence encodes, with the replacement character for what encodes none. -/
def decodeLossy (bs : List UInt8) : String := String.ofList (decodeLossyChars bs)

end StackCompiler.Utf8
