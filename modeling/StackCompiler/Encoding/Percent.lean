import StackCompiler.Encoding.Utf8

/-!
# Percent encoding

`Percent.encode` writes each character that is not kept as the escapes of its UTF-8 bytes.
`Percent.decode` reads escapes back; a percent sign without two hexadecimal digits stands for
itself, and bytes that encode no character become the replacement character.
-/

namespace StackCompiler.Percent

def hexDigit (n : Nat) : Char := Char.ofNat (if n < 10 then 48 + n else 55 + n)

def hexValue? (c : Char) : Option Nat :=
  if '0' ≤ c ∧ c ≤ '9' then some (c.toNat - 48)
  else if 'a' ≤ c ∧ c ≤ 'f' then some (c.toNat - 87)
  else if 'A' ≤ c ∧ c ≤ 'F' then some (c.toNat - 55)
  else none

/-- Letters, digits and the four marks that never need an escape. -/
def isUnreserved (c : Char) : Bool :=
  c.isAlphanum || c == '_' || c == '.' || c == '-' || c == '~'

def escapeByte (b : UInt8) : List Char :=
  ['%', hexDigit (b.toNat / 16), hexDigit (b.toNat % 16)]

def encodeChar (keep : Char → Bool) (c : Char) : List Char :=
  if keep c then [c] else (Utf8.encodeChar c).flatMap escapeByte

def encodeWith (keep : Char → Bool) (s : String) : String :=
  String.ofList (s.toList.flatMap (encodeChar keep))

/-- Nothing but unreserved characters is kept: the form of a value inside a query. -/
def encode (s : String) : String := encodeWith isUnreserved s

/-! ## Reading -/

/-- The bytes of an ASCII text, escapes read. -/
def asciiBytes : List Char → List UInt8
  | [] => []
  | '%' :: a :: b :: cs =>
    match hexValue? a, hexValue? b with
    | some x, some y => UInt8.ofNat (x * 16 + y) :: asciiBytes cs
    | _, _ => 37 :: asciiBytes (a :: b :: cs)
  | c :: cs => UInt8.ofNat c.toNat :: asciiBytes cs

/-- Escapes read in each stretch of ASCII characters; other characters stay. -/
def decodeChars (cs : List Char) : List Char :=
  let rec go : Nat → List Char → List Char
    | 0, _ => []
    | _ + 1, [] => []
    | fuel + 1, c :: cs =>
      if c.toNat < 128 then
        let (ascii, rest) := (c :: cs).span (·.toNat < 128)
        Utf8.decodeLossyChars (asciiBytes ascii) ++ go fuel rest
      else c :: go fuel cs
  go cs.length cs

def decode (s : String) : String := String.ofList (decodeChars s.toList)

end StackCompiler.Percent
