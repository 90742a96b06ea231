import StackCompiler.Text.Digit

/-!
# Integers written as texts

`exactInt` reads the strict form, a minus sign and ASCII digits without leading zeros. A text of
another form is cleaned once and read again: `cleaned?` drops white space around it, a plus sign,
leading zeros, a fraction of zeros, and single underscores between characters.
-/

namespace StackCompiler.IntText

open Text (isAsciiDigit ofAsciiDigits)

inductive Fault where
  | unreadable
  | tooLong
  deriving DecidableEq, Repr

/-- An integer in the strict form. One that is too long is refused for that, whatever follows. -/
def exactInt (cs : List Char) : Except Fault Int :=
  let (isNegative, unsigned) : Bool × List Char := match cs with
    | '-' :: ds => (true, ds)
    | _ => (false, cs)
  let (digits, rest) : List Char × List Char := match unsigned with
    | '0' :: rest => (['0'], rest)
    | _ => unsigned.span isAsciiDigit
  if Text.maxDigits < digits.length + (if isNegative then 1 else 0) then .error .tooLong
  else if digits.isEmpty || !rest.isEmpty then .error .unreadable
  else .ok (if isNegative then -(ofAsciiDigits digits : Int) else ofAsciiDigits digits)

/-! ## Cleaning -/

/-- What follows zeros and underscores, where `last` is the character before. Before a fraction the
last of them is kept, and so it is at the end. -/
def afterZeros (last : Char) : List Char → Option (List Char)
  | [] => some [last]
  | c :: cs =>
    if c = '0' ∨ c = '_' then afterZeros c cs
    else if c = '.' then some (last :: c :: cs)
    else if c = '-' ∨ isAsciiDigit c then some (c :: cs)
    else none

/-- The text without the zeros at its start; it must start like a number. -/
def withoutZeros? : List Char → Option (List Char)
  | [] => none
  | c :: cs =>
    if c = '0' then afterZeros c cs
    else if c = '-' ∨ isAsciiDigit c then some (c :: cs)
    else none

/-- The text without a fraction, of which all digits must be zeros. -/
def withoutFraction? (cs : List Char) : Option (List Char) :=
  match cs.span (· ≠ '.') with
  | (whole, '.' :: zeros) => if !zeros.isEmpty && zeros.all (· = '0') then some whole else none
  | _ => some cs

/-- The text without single underscores between other characters. -/
def withoutGroups? : List Char → Option (List Char)
  | [] => some []
  | ['_'] => none
  | '_' :: '_' :: _ => none
  | '_' :: c :: cs => (withoutGroups? cs).map (c :: ·)
  | c :: cs => (withoutGroups? cs).map (c :: ·)

/-- The text without what the strict form does not allow and a lenient one does. -/
def cleaned? (cs : List Char) : Option (List Char) := do
  let unsigned ← match Text.trim cs with
    | '+' :: '-' :: _ => none
    | '+' :: cs => some cs
    | cs => some cs
  let whole ← withoutFraction? (← withoutZeros? unsigned)
  if whole.head? = some '_' then none else withoutGroups? whole

/-- The integer that a text is, possibly after cleaning. -/
def read (s : String) : Except Fault Int :=
  match exactInt s.toList with
  | .error .unreadable =>
    match cleaned? s.toList with
    | some cs => exactInt cs
    | none => .error .unreadable
  | result => result

end StackCompiler.IntText
