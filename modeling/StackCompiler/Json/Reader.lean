import StackCompiler.Encoding.Unicode
import StackCompiler.Json.Basic
import StackCompiler.Text.Digit

/-!
# Reading JSON

`Json.read` reads one value with blanks around it. Beside the standard it takes `NaN`, `Infinity`
and `-Infinity`; of members with one name the last counts. A text fails by its form, by an integer
that has too many digits, or by collections that are too deep inside one another.
-/

namespace StackCompiler.Json

/-- Why a text is not read as a value. -/
inductive ReadError where
  | malformed
  | integerTooLong
  | tooDeep
  deriving DecidableEq, Repr

/-- What is read, and the rest of the text. -/
abbrev Reading (α : Type) := Except ReadError (α × List Char)

namespace Reader

def isGap (c : Char) : Bool := c == ' ' || c == '\t' || c == '\n' || c == '\r'

def dropGaps (cs : List Char) : List Char := cs.dropWhile isGap

def hexValue? (c : Char) : Option Nat :=
  if '0' ≤ c ∧ c ≤ '9' then some (c.toNat - 48)
  else if 'a' ≤ c ∧ c ≤ 'f' then some (c.toNat - 87)
  else if 'A' ≤ c ∧ c ≤ 'F' then some (c.toNat - 55)
  else none

/-- The number that the first four hexadecimal digits denote, and the rest. -/
def hex4? : List Char → Option (Nat × List Char)
  | a :: b :: c :: d :: cs => do
    let a ← hexValue? a
    let b ← hexValue? b
    let c ← hexValue? c
    let d ← hexValue? d
    return (a * 4096 + b * 256 + c * 16 + d, cs)
  | _ => none

/-- The characters of escapes of one letter. -/
def letterEscape? : Char → Option Char
  | '"' => some '"'
  | '\\' => some '\\'
  | '/' => some '/'
  | 'b' => some '\x08'
  | 'f' => some '\x0c'
  | 'n' => some '\n'
  | 'r' => some '\r'
  | 't' => some '\t'
  | _ => none

/-- The character of a `\u` escape. Two escapes of a surrogate pair make one character; a surrogate
without its partner stands for no character and reads as the replacement character. -/
def unicodeEscape? (cs : List Char) : Option (Char × List Char) := do
  let (n, cs) ← hex4? cs
  let joined : Option (Char × List Char) := match cs with
    | '\\' :: 'u' :: rest => do
      let (m, rest) ← hex4? rest
      return (← Unicode.ofSurrogates? n m, rest)
    | _ => none
  return joined.getD (Unicode.char n, cs)

/-- The characters up to the closing quote; `acc` holds those read so far, the last one first. -/
def string (acc : List Char) : Nat → List Char → Reading String
  | 0, _ => .error .malformed
  | _ + 1, [] => .error .malformed
  | _ + 1, '"' :: cs => .ok (String.ofList acc.reverse, cs)
  | fuel + 1, '\\' :: 'u' :: cs =>
    match unicodeEscape? cs with
    | some (c, cs) => string (c :: acc) fuel cs
    | none => .error .malformed
  | fuel + 1, '\\' :: e :: cs =>
    match letterEscape? e with
    | some c => string (c :: acc) fuel cs
    | none => .error .malformed
  | fuel + 1, c :: cs =>
    if c.toNat < 32 then .error .malformed else string (c :: acc) fuel cs

def asciiDigits (cs : List Char) : List Char × List Char := cs.span Text.isAsciiDigit

/-- A fraction: the digits after a point, which must be there. -/
def fraction (cs : List Char) : List Char × List Char :=
  match cs with
  | '.' :: rest =>
    match asciiDigits rest with
    | ([], _) => ([], cs)
    | found => found
  | _ => ([], cs)

/-- An exponent and whether one is there. -/
def exponent (cs : List Char) : Option Int × List Char :=
  match cs with
  | e :: rest =>
    if e = 'e' ∨ e = 'E' then
      let (negative, digits) := Text.splitSign rest
      match asciiDigits digits with
      | ([], _) => (none, cs)
      | (ds, rest) =>
        let n : Int := Text.ofAsciiDigits ds
        (some (if negative then -n else n), rest)
    else (none, cs)
  | [] => (none, cs)

/-- A number after its sign. -/
def number (negative : Bool) (cs : List Char) : Reading Json :=
  let (whole, rest) := match cs with
    | '0' :: rest => (['0'], rest)
    | _ => asciiDigits cs
  if whole.isEmpty then .error .malformed
  else
    let (frac, rest) := fraction rest
    let (exp, rest) := exponent rest
    if frac.isEmpty && exp.isNone then
      if whole.length > Text.maxDigits then .error .integerTooLong
      else
        let n : Int := Text.ofAsciiDigits whole
        .ok (int (if negative then -n else n), rest)
    else
      let digits := Text.ofAsciiDigits (whole ++ frac)
      .ok (float (Binary64.ofDecimal negative digits (exp.getD 0 - frac.length)), rest)

/-- The names of values, with what they stand for. -/
def names : List (List Char × Json) :=
  [("null".toList, null), ("true".toList, bool true), ("false".toList, bool false),
   ("NaN".toList, float .nan), ("Infinity".toList, float (.infinite false)),
   ("-Infinity".toList, float (.infinite true))]

def dropHead? : List Char → List Char → Option (List Char)
  | [], cs => some cs
  | _ :: _, [] => none
  | p :: ps, c :: cs => if p = c then dropHead? ps cs else none

def name (cs : List Char) : Option (Json × List Char) :=
  names.findSome? fun (word, v) => (dropHead? word cs).map (v, ·)

/-- Collections deeper than this are not read. -/
def maxDepth : Nat := 980

mutual

/-- A value at the start of the text, inside `depth` collections. -/
def value (depth : Nat) : Nat → List Char → Reading Json
  | 0, _ => .error .malformed
  | fuel + 1, cs =>
    match cs with
    | '"' :: cs => (string [] fuel cs).map fun (s, cs) => (str s, cs)
    | '[' :: cs =>
      if maxDepth ≤ depth then .error .tooDeep
      else match dropGaps cs with
        | ']' :: cs => .ok (arr [], cs)
        | cs => items (depth + 1) [] fuel cs
    | '\x7b' :: cs =>
      if maxDepth ≤ depth then .error .tooDeep
      else match dropGaps cs with
        | '\x7d' :: cs => .ok (obj [], cs)
        | cs => members (depth + 1) [] fuel cs
    | _ =>
      match name cs with
      | some found => .ok found
      | none =>
        match cs with
        | '-' :: cs => number true cs
        | cs => number false cs

/-- The items up to the closing bracket; `acc` holds those read so far, the last one first. -/
def items (depth : Nat) (acc : List Json) : Nat → List Char → Reading Json
  | 0, _ => .error .malformed
  | fuel + 1, cs =>
    match value depth fuel cs with
    | .error e => .error e
    | .ok (v, cs) =>
      match dropGaps cs with
      | ',' :: cs => items depth (v :: acc) fuel (dropGaps cs)
      | ']' :: cs => .ok (arr (v :: acc).reverse, cs)
      | _ => .error .malformed

/-- The members up to the closing brace; `acc` holds those read so far, the last one first. -/
def members (depth : Nat) (acc : List (String × Json)) : Nat → List Char → Reading Json
  | 0, _ => .error .malformed
  | fuel + 1, cs =>
    match cs with
    | '"' :: cs =>
      match string [] fuel cs with
      | .error e => .error e
      | .ok (key, cs) =>
        match dropGaps cs with
        | ':' :: cs =>
          match value depth fuel (dropGaps cs) with
          | .error e => .error e
          | .ok (v, cs) =>
            match dropGaps cs with
            | ',' :: cs => members depth ((key, v) :: acc) fuel (dropGaps cs)
            | '\x7d' :: cs => .ok (obj (dedupEntries ((key, v) :: acc).reverse), cs)
            | _ => .error .malformed
        | _ => .error .malformed
    | _ => .error .malformed

end

/-- The whole text as a value. Each nested call reads a character, so the fuel suffices. -/
def document (cs : List Char) : Except ReadError Json := do
  let (v, rest) ← value 0 (2 * cs.length + 2) (dropGaps cs)
  if (dropGaps rest).isEmpty then .ok v else .error .malformed

end Reader

def read (text : String) : Except ReadError Json := Reader.document text.toList

end StackCompiler.Json
