import StackCompiler.Encoding.Base64
import StackCompiler.Text.Case
import StackCompiler.Yaml.Token

/-!
# Values of scalars

What the text of a scalar denotes under each tag.
-/

namespace StackCompiler.Yaml

open Text (isAsciiDigit ofAsciiDigits)

/-! ## Truth values -/

def truthWords : List (String × Bool) :=
  [("yes", true), ("no", false), ("true", true), ("false", false), ("on", true), ("off", false)]

def truthValue (cs : List Char) : Except Fault Bool :=
  let word := String.ofList (Text.lowerChars cs)
  match truthWords.lookup word with
  | some b => .ok b
  | none => .error (.noTruthValue word)

/-! ## Numbers -/

/-- The text of a number: its sign, and what follows it without underscores. -/
def signAndRest (cs : List Char) : Except Fault (Bool × List Char) :=
  match cs.filter (· != '_') with
  | [] => .error .emptyNumber
  | cs => .ok (Text.splitSign cs)

/-- The bases of numbers that are not decimal. -/
inductive Base where
  | binary
  | octal
  | hexadecimal
  deriving DecidableEq, Repr

def Base.size : Base → Nat
  | binary => 2
  | octal => 8
  | hexadecimal => 16

/-- The letter that may stand after a zero before the digits. -/
def Base.letter : Base → Char
  | binary => 'b'
  | octal => 'o'
  | hexadecimal => 'x'

def hexValue (c : Char) : Nat := if isAsciiDigit c then c.toNat - 48 else c.toLower.toNat - 87

/-- An integer to a base between white space: a sign, the mark of the base, and digits. -/
def inBase (base : Base) (cs : List Char) : Except Fault Int :=
  let (negative, cs) := Text.splitSign (Text.trim (Text.asciiNumeral cs))
  let digits := match cs with
    | '0' :: c :: rest => if c.toLower = base.letter then rest else cs
    | _ => cs
  let isDigit (c : Char) : Bool := isHexadecimal c && hexValue c < base.size
  if digits.isEmpty || !digits.all isDigit then .error .badValue
  else
    let n : Nat := digits.foldl (fun n c => n * base.size + hexValue c) 0
    .ok (if negative then -(n : Int) else n)

def inDecimal (cs : List Char) : Except Fault Int :=
  match Text.integer? (String.ofList cs) with
  | some n => .ok n
  | none => .error .badValue

/-- The parts of a number to the base of sixty, the highest first. -/
def sexagesimalInt (parts : List (List Char)) : Except Fault Int := do
  let ns ← parts.mapM inDecimal
  return ns.foldl (fun n d => n * 60 + d) 0

def unsignedInt (cs : List Char) : Except Fault Int :=
  match cs with
  | [] => .error .emptyNumber
  | ['0'] => .ok 0
  | '0' :: 'b' :: ds => inBase .binary ds
  | '0' :: 'x' :: ds => inBase .hexadecimal ds
  | '0' :: _ => inBase .octal cs
  | _ => if cs.contains ':' then sexagesimalInt (Text.pieces ':' cs) else inDecimal cs

def intValue (cs : List Char) : Except Fault Int := do
  let (negative, cs) ← signAndRest cs
  let n ← unsignedInt cs
  return if negative then -n else n

/-- A decimal number with a fraction and an exponent, as its digits and the exponent of the last. -/
def decimalParts (cs : List Char) : Option (Nat × Int) := do
  let (whole, rest) := cs.span isAsciiDigit
  let (fraction, rest) := match rest with
    | '.' :: rest => rest.span isAsciiDigit
    | _ => ([], rest)
  if whole.isEmpty && fraction.isEmpty then none
  let exponent : Int ← match rest with
    | [] => some 0
    | 'e' :: rest =>
      let (negative, ds) := Text.splitSign rest
      if ds.isEmpty || !ds.all isAsciiDigit then none
      else some (if negative then -(ofAsciiDigits ds : Int) else ofAsciiDigits ds)
    | _ => none
  return (ofAsciiDigits (whole ++ fraction), exponent - fraction.length)

/-- A number in lower case between white space, with a sign of its own. -/
def decimalFloat (cs : List Char) : Except Fault Binary64 :=
  let (negative, cs) := Text.splitSign (Text.trim (Text.asciiNumeral cs))
  if cs = "inf".toList || cs = "infinity".toList then .ok (.infinite negative)
  else if cs = "nan".toList then .ok .nan
  else match decimalParts cs with
    | some (digits, exponent) => .ok (Binary64.ofDecimal negative digits exponent)
    | none => .error .badValue

/-- The value of the parts of a number to the base of sixty, the lowest first, each part being
weighed and added in turn. A weight beyond the numbers is a fault. -/
def weighedSum : Binary64 → Nat → List Binary64 → Except Fault Binary64
  | sum, _, [] => .ok sum
  | sum, weight, x :: xs =>
    match Binary64.ofInt weight with
    | .finite n m e => weighedSum (sum.add (x.mul (.finite n m e))) (weight * 60) xs
    | _ => .error .outOfRange

def sexagesimalFloat (parts : List (List Char)) : Except Fault Binary64 := do
  weighedSum .zero 1 (← parts.mapM decimalFloat).reverse

def unsignedFloat (cs : List Char) : Except Fault Binary64 :=
  if cs = ".inf".toList then .ok (.infinite false)
  else if cs = ".nan".toList then .ok .nan
  else if cs.contains ':' then sexagesimalFloat (Text.pieces ':' cs)
  else decimalFloat cs

def floatValue (cs : List Char) : Except Fault Binary64 := do
  let (negative, cs) ← signAndRest (Text.lowerChars cs)
  let x ← unsignedFloat cs
  return if negative then x.neg else x

/-! ## Times -/

def isLeapYear (y : Nat) : Bool := y % 4 == 0 && (y % 100 != 0 || y % 400 == 0)

def monthLength (y m : Nat) : Nat :=
  if m = 2 then (if isLeapYear y then 29 else 28)
  else if [4, 6, 9, 11].contains m then 30 else 31

def dateOf (d : DateForm) : Except Fault Date :=
  if 1 ≤ d.year ∧ 1 ≤ d.month ∧ d.month ≤ 12 ∧ 1 ≤ d.day ∧ d.day ≤ monthLength d.year d.month then
    .ok ⟨d.year, d.month, d.day⟩
  else .error .badValue

/-- The distance from universal time in seconds, which must be less than a day. -/
def zoneOffset (zone : Option (Option (Bool × Nat × Nat))) : Except Fault (Option Int) :=
  match zone with
  | none => .ok none
  | some none => .ok (some 0)
  | some (some (negative, hours, minutes)) =>
    let seconds := hours * 3600 + minutes * 60
    if 86400 ≤ seconds then .error .badValue
    else .ok (some (if negative then -(seconds : Int) else seconds))

/-- The first six digits of a fraction as microseconds. -/
def microseconds (fraction : List Char) : Nat :=
  let ds := fraction.take 6
  ofAsciiDigits ds * Nat.pow 10 (6 - ds.length)

def timeValue (cs : List Char) : Except Fault Scalar :=
  match dateForm? cs with
  | none => .error .noTime
  | some d =>
    match d.time with
    | none => (dateOf d).map .date
    | some t => do
      let offset ← zoneOffset t.zone
      let date ← dateOf d
      if 23 < t.hour ∨ 59 < t.minute ∨ 59 < t.second then throw .badValue
      return .moment ⟨date, t.hour, t.minute, t.second, microseconds t.fraction, offset⟩

/-! ## Bytes -/

def bytesValue (cs : List Char) : Except Fault (List UInt8) :=
  if cs.all (·.toNat < 128) then
    match Base64.decodeLoose? .standard cs with
    | some bs => .ok bs
    | none => .error .malformed
  else .error .malformed

/-- The value of a text under a tag; collections and unknown tags have none. -/
def scalarValue (tag : Tag) (cs : List Char) : Except Fault Scalar :=
  match tag with
  | .str => .ok (.str (String.ofList cs))
  | .null => .ok .null
  | .bool => (truthValue cs).map .bool
  | .int => (intValue cs).map .int
  | .float => (floatValue cs).map .float
  | .binary => (bytesValue cs).map .bytes
  | .timestamp => timeValue cs
  | _ => .error .malformed

end StackCompiler.Yaml
