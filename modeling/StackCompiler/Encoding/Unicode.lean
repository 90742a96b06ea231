import StackCompiler.Encoding.Utf8

/-!
# Unicode encodings

A text may be encoded in units of one, two or four bytes, in either order of bytes.
`Unicode.Form.detect` tells the form from the first bytes, as they stand in a text that starts with
two ASCII characters or with a byte order mark; `Unicode.decode?` reads the bytes in that form.
-/

namespace StackCompiler.Unicode

/-- How code points are written as bytes; `skip` bytes at the start are a mark of the form. -/
inductive Form where
  | utf8 (skip : Nat)
  | utf16 (bigEndian : Bool) (skip : Nat)
  | utf32 (bigEndian : Bool) (skip : Nat)
  deriving DecidableEq, Repr

/-- The form that a byte order mark announces. -/
def Form.ofMark? : List UInt8 → Option Form
  | 0 :: 0 :: 0xFE :: 0xFF :: _ => some (utf32 true 4)
  | 0xFF :: 0xFE :: 0 :: 0 :: _ => some (utf32 false 4)
  | 0xFE :: 0xFF :: _ => some (utf16 true 2)
  | 0xFF :: 0xFE :: _ => some (utf16 false 2)
  | 0xEF :: 0xBB :: 0xBF :: _ => some (utf8 3)
  | _ => none

/-- The form that the zeros among the first bytes show. -/
def Form.ofZeros : List UInt8 → Form
  | 0 :: b :: _ :: _ :: _ => if b = 0 then utf32 true 0 else utf16 true 0
  | _ :: 0 :: c :: d :: _ => if c = 0 ∧ d = 0 then utf32 false 0 else utf16 false 0
  | [0, _] => utf16 true 0
  | [_, 0] => utf16 false 0
  | _ => utf8 0

def Form.detect (bs : List UInt8) : Form := (Form.ofMark? bs).getD (Form.ofZeros bs)

/-! ## Units -/

/-- The number that two bytes make. -/
def pair (bigEndian : Bool) (a b : UInt8) : Nat :=
  if bigEndian then a.toNat * 256 + b.toNat else b.toNat * 256 + a.toNat

def units16? (bigEndian : Bool) : List UInt8 → Option (List Nat)
  | [] => some []
  | [_] => none
  | a :: b :: bs => (units16? bigEndian bs).map (pair bigEndian a b :: ·)

def units32? (bigEndian : Bool) : List UInt8 → Option (List Nat)
  | [] => some []
  | a :: b :: c :: d :: bs =>
    let high := pair bigEndian a b
    let low := pair bigEndian c d
    let n := if bigEndian then high * 65536 + low else low * 65536 + high
    (units32? bigEndian bs).map (n :: ·)
  | _ => none

/-- The character of a code point; a surrogate is no character and reads as the replacement
character. -/
def char (n : Nat) : Char := if 0xD800 ≤ n ∧ n < 0xE000 then '\uFFFD' else Char.ofNat n

/-- The character of a surrogate pair. -/
def ofSurrogates? (high low : Nat) : Option Char :=
  if 0xD800 ≤ high ∧ high < 0xDC00 ∧ 0xDC00 ≤ low ∧ low < 0xE000 then
    some (Char.ofNat (0x10000 + (high - 0xD800) * 1024 + (low - 0xDC00)))
  else none

/-- The characters of units of two bytes, surrogate pairs joined. -/
def ofUnits16 : List Nat → List Char
  | [] => []
  | [n] => [char n]
  | n :: m :: rest =>
    match ofSurrogates? n m with
    | some c => c :: ofUnits16 rest
    | none => char n :: ofUnits16 (m :: rest)

/-- The characters of units of one byte. A surrogate that is encoded like a character is taken. -/
def ofUnits8? : Nat → List UInt8 → Option (List Char)
  | _, [] => some []
  | 0, _ => none
  | fuel + 1, b :: bs =>
    match surrogate? (b :: bs) with
    | some rest => (ofUnits8? fuel rest).map ('\uFFFD' :: ·)
    | none =>
      match Utf8.next b bs with
      | (some c, rest) => (ofUnits8? fuel rest).map (c :: ·)
      | (none, _) => none
where
  /-- What follows an encoded surrogate. -/
  surrogate? : List UInt8 → Option (List UInt8)
    | 0xED :: b :: c :: rest =>
      if 0xA0 ≤ b ∧ b ≤ 0xBF ∧ 0x80 ≤ c ∧ c ≤ 0xBF then some rest else none
    | _ => none

/-- The text that bytes encode in a form. -/
def Form.decode? (form : Form) (bs : List UInt8) : Option String :=
  match form with
  | utf8 skip => (ofUnits8? bs.length (bs.drop skip)).map String.ofList
  | utf16 bigEndian skip =>
    (units16? bigEndian (bs.drop skip)).map fun ns => String.ofList (ofUnits16 ns)
  | utf32 bigEndian skip => do
    let ns ← units32? bigEndian (bs.drop skip)
    if ns.all (· < 0x110000) then some (String.ofList (ns.map char)) else none

/-- The text that bytes encode in the form that they show. -/
def decode? (bs : List UInt8) : Option String := (Form.detect bs).decode? bs

end StackCompiler.Unicode
