/-!
# Binary floating point numbers of 64 bits

A finite number is `± mantissa * 2 ^ exponent`. `Binary64.ofRatio` rounds a ratio to the nearest
number, ties to the even mantissa; `Binary64.shortest` gives the fewest decimal digits that round
to the number, the nearest of those, and `Binary64.text` writes them. All of it is exact
arithmetic.
-/

namespace StackCompiler

/-- A finite number has `mantissa < 2 ^ 53` and `-1074 ≤ exponent ≤ 971`, and `2 ^ 52 ≤ mantissa`
unless the exponent is the least. -/
inductive Binary64 where
  | finite (negative : Bool) (mantissa : Nat) (exponent : Int)
  | infinite (negative : Bool)
  | nan
  deriving DecidableEq, Repr, Inhabited

namespace Binary64

def zero : Binary64 := finite false 0 (-1074)

/-! ## Rounding -/

/-- `num / den` rounded to the nearest integer, ties to even. -/
def roundDiv (num den : Nat) : Nat :=
  let q := num / den
  let twice := 2 * (num % den)
  if twice < den then q
  else if den < twice then q + 1
  else if q % 2 = 0 then q else q + 1

/-- The ratio `num / den * 2 ^ shift` as a numerator and a denominator. -/
def scale (num den : Nat) (shift : Int) : Nat × Nat :=
  if 0 ≤ shift then (num * Nat.pow 2 shift.toNat, den) else (num, den * Nat.pow 2 (-shift).toNat)

/-- The greatest `e` with `2 ^ e ≤ num / den`, for positive numbers. -/
def log2Ratio (num den : Nat) : Int :=
  let b : Int := (Nat.log2 num : Int) - Nat.log2 den
  let (n, d) := scale num den (-b)
  if n < d then b - 1 else b

/-- The number nearest to `num / den`. -/
def ofRatio (negative : Bool) (num den : Nat) : Binary64 :=
  if num = 0 then finite negative 0 (-1074)
  else
    let e := max (log2Ratio num den - 52) (-1074)
    let (n, d) := scale num den (-e)
    let m := roundDiv n d
    let (m, e) := if m = Nat.pow 2 53 then (Nat.pow 2 52, e + 1) else (m, e)
    if 971 < e then infinite negative else finite negative m e

def ofInt (n : Int) : Binary64 := ofRatio (n < 0) n.natAbs 1

/-- The number nearest to `digits * 10 ^ exponent`. Exponents beyond the range of the type are
decided without computing the power. -/
def ofDecimal (negative : Bool) (digits : Nat) (exponent : Int) : Binary64 :=
  let length : Int := Nat.log2 digits
  if digits = 0 then finite negative 0 (-1074)
  else if 400 < exponent then infinite negative
  else if exponent + length < -400 ∧ exponent < -400 - length then finite negative 0 (-1074)
  else if 0 ≤ exponent then ofRatio negative (digits * Nat.pow 10 exponent.toNat) 1
  else ofRatio negative digits (Nat.pow 10 (-exponent).toNat)

/-! ## Order and arithmetic -/

/-- The value of a finite number as a numerator and a positive denominator. -/
def toRatio? : Binary64 → Option (Int × Nat)
  | finite negative m e =>
    let (n, d) := scale m 1 e
    some (if negative then -(n : Int) else n, d)
  | _ => none

/-- Whether the number is below `num / den`; nothing is below or above `nan`. -/
def isLtRatio (x : Binary64) (num : Int) (den : Nat) : Bool :=
  match x with
  | infinite negative => negative
  | nan => false
  | finite .. =>
    match x.toRatio? with
    | some (n, d) => n * den < num * d
    | none => false

/-- Whether `num / den` is below the number. -/
def ratioIsLt (num : Int) (den : Nat) (x : Binary64) : Bool :=
  match x with
  | infinite negative => !negative
  | nan => false
  | finite .. =>
    match x.toRatio? with
    | some (n, d) => num * d < n * den
    | none => false

def isLt (x y : Binary64) : Bool :=
  match y with
  | infinite negative => !negative && (match x with | nan | infinite false => false | _ => true)
  | nan => false
  | finite .. =>
    match y.toRatio? with
    | some (n, d) => x.isLtRatio n d
    | none => false

/-- The difference of a number and an integer, rounded. -/
def subInt (x : Binary64) (k : Int) : Binary64 :=
  match x.toRatio? with
  | some (n, d) =>
    let r := n - k * d
    ofRatio (r < 0) r.natAbs d
  | none => x

def isNegative : Binary64 → Bool
  | finite negative .. | infinite negative => negative
  | nan => false

/-- The number of the other sign. -/
def neg : Binary64 → Binary64
  | finite negative m e => finite (!negative) m e
  | infinite negative => infinite (!negative)
  | nan => nan

/-- A rounded sum or difference; `zeroSign` is the sign of an exact zero. -/
def ofSum (num : Int) (den : Nat) (zeroSign : Bool) : Binary64 :=
  if num = 0 then finite zeroSign 0 (-1074) else ofRatio (num < 0) num.natAbs den

/-- The rounded sum. It is a negative zero only if both numbers are negative. -/
def add (x y : Binary64) : Binary64 :=
  match x, y with
  | nan, _ | _, nan => nan
  | infinite p, infinite q => if p = q then infinite p else nan
  | infinite p, finite .. => infinite p
  | finite .., infinite q => infinite q
  | finite .., finite .. =>
    match x.toRatio?, y.toRatio? with
    | some (m, c), some (n, d) => ofSum (m * d + n * c) (c * d) (x.isNegative && y.isNegative)
    | _, _ => nan

/-- The rounded product. -/
def mul (x y : Binary64) : Binary64 :=
  let sign := x.isNegative != y.isNegative
  match x, y with
  | nan, _ | _, nan => nan
  | infinite _, finite _ 0 _ | finite _ 0 _, infinite _ => nan
  | infinite _, _ | _, infinite _ => infinite sign
  | finite _ m e, finite _ n f =>
    let (num, den) := scale (m * n) 1 (e + f)
    ofRatio sign num den

/-- The integer a number is equal to. -/
def toInt? (x : Binary64) : Option Int :=
  match x.toRatio? with
  | some (n, d) => if n % d = 0 then some (n / d) else none
  | none => none

/-- The integer that a finite number is without its fraction. -/
def truncated? (x : Binary64) : Option Int := x.toRatio?.map fun (n, d) => Int.tdiv n d

def isZero : Binary64 → Bool
  | finite _ 0 _ => true
  | _ => false

/-! ## Shortest decimal text -/

/-- The interval of the positive rationals that round to `m * 2 ^ e`, as numerators over a common
denominator of `4`: the lower end, the number, the upper end. -/
def interval (m : Nat) (e : Int) : Nat × Nat × Nat :=
  if m = Nat.pow 2 52 ∧ -1074 < e then (4 * m - 1, 4 * m, 4 * m + 2)
  else (4 * m - 2, 4 * m, 4 * m + 2)

/-- The greatest `k` with `10 ^ k ≤ num / den`, searched downwards from a bound. -/
def log10Ratio (num den : Nat) : Int :=
  let rec go : Nat → Int → Int
    | 0, k => k
    | fuel + 1, k =>
      let (n, d) := if 0 ≤ k then (num, den * Nat.pow 10 k.toNat)
        else (num * Nat.pow 10 (-k).toNat, den)
      if d ≤ n then k else go fuel (k - 1)
  let guess : Int := (log2Ratio num den + 1) * 30103 / 100000 + 1
  go 4 guess

/-- The nearest point of the grid `10 ^ k` among those that round to the number, if there is one;
a tie goes to the even point. -/
def gridPoint? (m : Nat) (e k : Int) : Option Nat :=
  let (lo, mid, hi) := interval m e
  let (_, den) := scale 1 4 e
  let (mid', _) := scale mid 4 e
  let (lo', _) := scale lo 4 e
  let (hi', _) := scale hi 4 e
  -- the number is `mid' / den`; one step of the grid is `stepNum / stepDen`
  let (stepNum, stepDen) : Nat × Nat :=
    if 0 ≤ k then (Nat.pow 10 k.toNat, 1) else (1, Nat.pow 10 (-k).toNat)
  let below := mid' * stepDen / (den * stepNum)
  let inside (p : Nat) : Bool :=
    let x := p * stepNum * den
    if m % 2 = 0 then lo' * stepDen ≤ x && x ≤ hi' * stepDen
    else lo' * stepDen < x && x < hi' * stepDen
  let distance (p : Nat) : Nat :=
    ((p * stepNum * den : Int) - mid' * stepDen).natAbs
  match inside below && 0 < below, inside (below + 1) with
  | true, false => some below
  | false, true => some (below + 1)
  | false, false => none
  | true, true =>
    if distance below < distance (below + 1) then some below
    else if distance (below + 1) < distance below then some (below + 1)
    else if below % 2 = 0 then some below else some (below + 1)

/-- The digits of the shortest decimal that rounds to `m * 2 ^ e`, with the exponent of its last
digit. Seventeen digits always suffice. -/
def shortest (m : Nat) (e : Int) : Nat × Int :=
  let (n, d) := scale m 1 e
  let top := log10Ratio n d
  let rec go : Nat → Int → Nat × Int
    | 0, k => ((gridPoint? m e k).getD 0, k)
    | fuel + 1, k =>
      match gridPoint? m e k with
      | some p => (p, k)
      | none => go fuel (k - 1)
  go 18 top

/-- Removes the zeros at the end of the digits. -/
def trimZeros (digits : Nat) (exponent : Int) : Nat × Int :=
  let rec go : Nat → Nat → Int → Nat × Int
    | 0, n, k => (n, k)
    | fuel + 1, n, k => if n % 10 = 0 ∧ n ≠ 0 then go fuel (n / 10) (k + 1) else (n, k)
  go 20 digits exponent

/-- The choices of a decimal text: positional from `10 ^ low` up to below `10 ^ high`, else with an
exponent of at least two digits. -/
structure TextRule where
  low : Int
  high : Int

/-- Numbers from `0.0001` up to below `10 ^ 16` are written without an exponent. -/
def displayRule : TextRule := ⟨-4, 16⟩

def TextRule.write (rule : TextRule) (digits : Nat) (exponent : Int) : String :=
  let ds := (toString digits).toList
  let top : Int := exponent + ds.length - 1
  if rule.low ≤ top ∧ top < rule.high then
    if 0 ≤ exponent then
      String.ofList (ds ++ List.replicate exponent.toNat '0' ++ ['.', '0'])
    else if 0 ≤ top then
      let n := (top + 1).toNat
      String.ofList (ds.take n ++ ['.'] ++ ds.drop n)
    else
      String.ofList (['0', '.'] ++ List.replicate (-top - 1).toNat '0' ++ ds)
  else
    let mantissa := match ds with
      | [] => []
      | [d] => [d]
      | d :: rest => d :: '.' :: rest
    let e := (toString top.natAbs).toList
    let e := if e.length < 2 then '0' :: e else e
    String.ofList (mantissa ++ ['e', if top < 0 then '-' else '+'] ++ e)

/-- The decimal text of a number; the texts of the three others are given. -/
def textWith (nanText infinityText : String) : Binary64 → String
  | nan => nanText
  | infinite negative => (if negative then "-" else "") ++ infinityText
  | finite negative m e =>
    let (digits, exponent) :=
      if m = 0 then (0, (0 : Int)) else
        let (p, k) := shortest m e
        trimZeros p k
    (if negative then "-" else "") ++ displayRule.write digits exponent

/-- The text of a number among displayed values. -/
def text : Binary64 → String := textWith "nan" "inf"

end Binary64
end StackCompiler
