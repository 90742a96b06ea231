import StackCompiler.Text.Blank

/-!
# Decimal digits and integers

Unicode 14 has 65 sets of ten consecutive decimal digits beyond ASCII. `digitValue?` gives the
value of a digit of any of them, and `integer?` reads an integer written with any of them.
-/

namespace StackCompiler.Text

/-- The zeros of the decimal digits beyond ASCII. -/
def zeros : List Nat :=
  [1632, 1776, 1984, 2406, 2534, 2662, 2790, 2918, 3046, 3174, 3302, 3430, 3558, 3664, 3792, 3872,
   4160, 4240, 6112, 6160, 6470, 6608, 6784, 6800, 6992, 7088, 7232, 7248, 42528, 43216, 43264,
   43472, 43504, 43600, 44016, 65296, 66720, 68912, 69734, 69872, 69942, 70096, 70384, 70736,
   70864, 71248, 71360, 71472, 71904, 72016, 72784, 73040, 73120, 92768, 92864, 93008, 120782,
   120792, 120802, 120812, 120822, 123200, 123632, 125264, 130032]

/-- The value of a decimal digit. -/
def digitValue? (c : Char) : Option Nat :=
  if c.toNat < 128 then
    if '0' ≤ c ∧ c ≤ '9' then some (c.toNat - 48) else none
  else (zeros.find? fun z => z ≤ c.toNat && c.toNat < z + 10).map (c.toNat - ·)

def isDigit (c : Char) : Bool := (digitValue? c).isSome

/-- A numeral with ASCII digits for those of other scripts, and ASCII blanks for others. -/
def asciiNumeral (cs : List Char) : List Char :=
  cs.map fun c =>
    if c.toNat < 127 then c
    else if isBlank c then ' '
    else match digitValue? c with
      | some d => Char.ofNat (48 + d)
      | none => c

/-- Integers longer than this many digits are not read. -/
def maxDigits : Nat := 4300

/-- The number that a list of digit values denotes. -/
def ofDigits (ds : List Nat) : Nat := ds.foldl (fun n d => 10 * n + d) 0

/-- Digits with single underscores between them, as digit values. -/
def groupedDigits? (digit? : Char → Option Nat) : List Char → Option (List Nat)
  | [] => none
  | [c] => (digit? c).map ([·])
  | c :: '_' :: cs => do
    let d ← digit? c
    let ds ← groupedDigits? digit? cs
    return d :: ds
  | c :: cs => do
    let d ← digit? c
    let ds ← groupedDigits? digit? cs
    return d :: ds

/-! ## ASCII digits -/

def isAsciiDigit (c : Char) : Bool := '0' ≤ c && c ≤ '9'

/-- The number that ASCII digits denote. -/
def ofAsciiDigits (ds : List Char) : Nat := ofDigits (ds.map fun c => c.toNat - 48)

/-! ## Integers -/

/-- A sign and what follows it. -/
def splitSign : List Char → Bool × List Char
  | '-' :: cs => (true, cs)
  | '+' :: cs => (false, cs)
  | cs => (false, cs)

/-- An integer between white space: a sign and digits of any script, single underscores between
them. -/
def integer? (s : String) : Option Int := do
  let (negative, cs) := splitSign (trim s.toList)
  let ds ← groupedDigits? digitValue? cs
  if ds.length > maxDigits then none
  else return if negative then -(ofDigits ds : Int) else ofDigits ds

end StackCompiler.Text
