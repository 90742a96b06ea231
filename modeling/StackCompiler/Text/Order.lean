import StackCompiler.Text.Case
import StackCompiler.Text.Digit

/-!
# Orders of names

Identifiers are ordered by their folded form and then by their case-swapped form, so that lower
case comes first among texts that differ in case alone, and digits compare one by one. Display
names are ordered by `CollationKey`: runs of digits compare as numbers, the rest by its folded
form, and the text itself decides last.
-/

namespace StackCompiler.Text

/-! ## Identifiers -/

/-- What an identifier is ordered by. -/
def idKey (s : String) : String × String := (fold s, swapCase s)

def compareIds (a b : String) : Ordering :=
  (compare (idKey a).1 (idKey b).1).then (compare (idKey a).2 (idKey b).2)

/-- The list in the order of identifiers of the keys; the order of equal keys is kept. -/
def sortById (key : α → String) (xs : List α) : List α :=
  xs.mergeSort fun a b => (compareIds (key a) (key b)).isLE

def sortIds (xs : List String) : List String := sortById id xs

/-- The list in the order of code points. -/
def sortPlain (xs : List String) : List String := xs.mergeSort fun a b => (compare a b).isLE

/-! ## Display names -/

/-- A longest stretch of a folded text that has no digits, or only digits. -/
inductive Piece where
  | text (s : String)
  | number (n : Nat)
  deriving DecidableEq, Repr

/-- Texts come before numbers; in a key the two never meet. -/
def Piece.compare : Piece → Piece → Ordering
  | text a, text b => Ord.compare a b
  | number a, number b => Ord.compare a b
  | text _, number _ => .lt
  | number _, text _ => .gt

/-- A text cut into stretches without and with digits in turn, the first one without. -/
def cutAtDigits : List Char → List Char × List (List Char × List Char)
  | [] => ([], [])
  | c :: cs =>
    let (plain, rest) := cutAtDigits cs
    if isDigit c then
      match plain, rest with
      | [], (digits, tail) :: rest' => ([], (c :: digits, tail) :: rest')
      | _, _ => ([], ([c], plain) :: rest)
    else (c :: plain, rest)

/-- What a display name is ordered by. -/
structure CollationKey where
  pieces : List Piece
  raw : String
  deriving DecidableEq, Repr

/-- The key of a text; there is none when a run of digits is too long to be read. -/
def collationKey? (s : String) : Option CollationKey :=
  let (plain, rest) := cutAtDigits (foldChars s.toList)
  if rest.any (·.1.length > maxDigits) then none
  else some {
    pieces := .text (String.ofList plain) :: rest.flatMap fun (digits, tail) =>
      [.number (ofDigits (digits.filterMap digitValue?)), .text (String.ofList tail)]
    raw := s }

def CollationKey.compare (a b : CollationKey) : Ordering :=
  (List.compareLex Piece.compare a.pieces b.pieces).then (Ord.compare a.raw b.raw)

end StackCompiler.Text
