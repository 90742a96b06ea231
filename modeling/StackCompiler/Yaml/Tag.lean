import StackCompiler.Text.Digit
import StackCompiler.Text.Pattern
import StackCompiler.Text.Split

/-!
# Tags

A tag says what kind of value a node denotes. A plain scalar without a tag has the tag that its
form implies; `Tag.implied` decides it by the forms of YAML 1.1.
-/

namespace StackCompiler.Yaml

open Text (isAsciiDigit ofAsciiDigits)

inductive Tag where
  | str
  | null
  | bool
  | int
  | float
  | binary
  | timestamp
  | merge
  | value
  | seq
  | map
  | set
  | omap
  | pairs
  | other (uri : String)
  deriving DecidableEq, Repr, Inhabited

namespace Tag

/-- What the tags of the core types start with. -/
def coreSpace : String := "tag:yaml.org,2002:"

def coreTags : List (String × Tag) :=
  [("str", str), ("null", null), ("bool", bool), ("int", int), ("float", float),
   ("binary", binary), ("timestamp", timestamp), ("merge", merge), ("value", value), ("seq", seq),
   ("map", map), ("set", set), ("omap", omap), ("pairs", pairs)]

def ofUri (uri : String) : Tag :=
  match coreTags.find? fun (name, _) => coreSpace ++ name == uri with
  | some (_, tag) => tag
  | none => other uri

/-- Whether a tag stands for a kind of scalars. -/
def isScalar : Tag → Bool
  | str | null | bool | int | float | binary | timestamp => true
  | _ => false

/-- Whether a tag stands for a kind of collections. -/
def isCollection : Tag → Bool
  | seq | map | set | omap | pairs => true
  | _ => false

end Tag

/-! ## Forms of numbers -/

def isHexadecimal (c : Char) : Bool :=
  isAsciiDigit c || ('a' ≤ c && c ≤ 'f') || ('A' ≤ c && c ≤ 'F')

/-- At least one character, each of a class or an underscore. -/
def isRunOf (p : Char → Bool) (cs : List Char) : Bool :=
  !cs.isEmpty && cs.all fun c => p c || c == '_'

/-- A digit of a number to the base of sixty, below the highest. -/
def isSexagesimal : List Char → Bool
  | [c] => isAsciiDigit c
  | [c, d] => '0' ≤ c && c ≤ '5' && isAsciiDigit d
  | _ => false

/-- A digit, then digits and underscores. -/
def startsDecimal (start : Char → Bool) : List Char → Bool
  | c :: cs => start c && cs.all fun d => isAsciiDigit d || d == '_'
  | [] => false

def isPositiveDigit (c : Char) : Bool := '1' ≤ c && c ≤ '9'

def isIntForm (cs : List Char) : Bool :=
  match (Text.splitSign cs).2 with
  | '0' :: 'b' :: ds => isRunOf (fun c => c == '0' || c == '1') ds
  | '0' :: 'x' :: ds => isRunOf isHexadecimal ds
  | ['0'] => true
  | '0' :: ds => isRunOf (fun c => '0' ≤ c && c ≤ '7') ds
  | ds =>
    match Text.pieces ':' ds with
    | [] => false
    | first :: rest => startsDecimal isPositiveDigit first && rest.all isSexagesimal

/-- Nothing, or an exponent with a sign. -/
def isExponentForm : List Char → Bool
  | [] => true
  | e :: sign :: ds =>
    (e == 'e' || e == 'E') && (sign == '-' || sign == '+') && !ds.isEmpty && ds.all isAsciiDigit
  | _ => false

/-- Digits and underscores, then possibly an exponent. -/
def isFractionForm (cs : List Char) : Bool :=
  isExponentForm (cs.dropWhile fun c => isAsciiDigit c || c == '_')

def infinityWords : List (List Char) := [".inf".toList, ".Inf".toList, ".INF".toList]

def nanWords : List (List Char) := [".nan".toList, ".NaN".toList, ".NAN".toList]

/-- A number to the base of sixty with a fraction. -/
def isSexagesimalFloat (cs : List Char) : Bool :=
  match cs.span (· != '.') with
  | (whole, '.' :: fraction) =>
    (match Text.pieces ':' whole with
      | first :: part :: parts =>
        startsDecimal isAsciiDigit first && (part :: parts).all isSexagesimal
      | _ => false) &&
      fraction.all fun c => isAsciiDigit c || c == '_'
  | _ => false

def isFloatForm (cs : List Char) : Bool :=
  let unsigned := (Text.splitSign cs).2
  (match unsigned.span (· != '.') with
    | (whole, '.' :: rest) => startsDecimal isAsciiDigit whole && isFractionForm rest
    | _ => false) ||
  (match cs with
    | '.' :: d :: rest => isAsciiDigit d && isFractionForm rest
    | _ => false) ||
  isSexagesimalFloat unsigned ||
  infinityWords.contains unsigned ||
  nanWords.contains cs

/-! ## Forms of times -/

/-- The fields of a time as they are written. A zone is `none` for universal time. -/
structure TimeForm where
  hour : Nat
  minute : Nat
  second : Nat
  fraction : List Char
  zone : Option (Option (Bool × Nat × Nat))

structure DateForm where
  year : Nat
  month : Nat
  day : Nat
  /-- Month and day are written with two digits. -/
  isFull : Bool
  time : Option TimeForm

/-- One or two digits. -/
def oneOrTwoDigits : List Char → Option (List Char × List Char)
  | c :: d :: cs =>
    if isAsciiDigit c then
      if isAsciiDigit d then some ([c, d], cs) else some ([c], d :: cs)
    else none
  | [c] => if isAsciiDigit c then some ([c], []) else none
  | [] => none

def twoDigits : List Char → Option (List Char × List Char)
  | c :: d :: cs => if isAsciiDigit c && isAsciiDigit d then some ([c, d], cs) else none
  | _ => none

def skip (c : Char) : List Char → Option (List Char)
  | d :: cs => if c = d then some cs else none
  | [] => none

def isSpaceOrTab (c : Char) : Bool := c == ' ' || c == '\t'

/-- The end of a time: nothing, or a zone after blanks. -/
def zoneForm? (cs : List Char) : Option (Option (Option (Bool × Nat × Nat))) :=
  if cs.isEmpty then some none
  else match cs.dropWhile isSpaceOrTab with
    | ['Z'] => some (some none)
    | sign :: rest => do
      let negative ← if sign = '-' then some true else if sign = '+' then some false else none
      let (hours, rest) ← oneOrTwoDigits rest
      match rest with
      | [] => return some (some (negative, ofAsciiDigits hours, 0))
      | _ =>
        let (minutes, rest) ← twoDigits (← skip ':' rest)
        if !rest.isEmpty then none
        return some (some (negative, ofAsciiDigits hours, ofAsciiDigits minutes))
    | [] => none

/-- The part of a time after its date. -/
def timeForm? (cs : List Char) : Option TimeForm := do
  let cs ← match cs with
    | 'T' :: cs | 't' :: cs => some cs
    | c :: cs => if isSpaceOrTab c then some (cs.dropWhile isSpaceOrTab) else none
    | [] => none
  let (hour, cs) ← oneOrTwoDigits cs
  let (minute, cs) ← twoDigits (← skip ':' cs)
  let (second, cs) ← twoDigits (← skip ':' cs)
  let (fraction, cs) := match cs with
    | '.' :: cs => cs.span isAsciiDigit
    | _ => ([], cs)
  let zone ← zoneForm? cs
  return ⟨ofAsciiDigits hour, ofAsciiDigits minute, ofAsciiDigits second, fraction, zone⟩

/-- A date of three numbers, possibly with a time. -/
def dateOnLine? (cs : List Char) : Option DateForm := do
  let year := cs.take 4
  if year.length ≠ 4 || !year.all isAsciiDigit then none
  let (month, cs) ← oneOrTwoDigits (← skip '-' (cs.drop 4))
  let (day, cs) ← oneOrTwoDigits (← skip '-' cs)
  let isFull := month.length == 2 && day.length == 2
  let date := DateForm.mk (ofAsciiDigits year) (ofAsciiDigits month) (ofAsciiDigits day) isFull
  if cs.isEmpty then return date none
  else return date (some (← timeForm? cs))

/-- A date that a line feed may follow. -/
def dateForm? (cs : List Char) : Option DateForm := dateOnLine? (Text.dropFinalNewline cs)

/-- A date without a time must be written in full. -/
def isTimestampForm (cs : List Char) : Bool :=
  match dateForm? cs with
  | some d => d.isFull || d.time.isSome
  | none => false

/-! ## Implied tags -/

/-- The words of a truth value in three cases. -/
def inThreeCases (word : List Char) : List (List Char) :=
  match word with
  | [] => [[]]
  | c :: cs => [word, c.toUpper :: cs, word.map Char.toUpper]

def trueWords : List (List Char) := ["yes", "true", "on"].flatMap fun w => inThreeCases w.toList

def falseWords : List (List Char) := ["no", "false", "off"].flatMap fun w => inThreeCases w.toList

def nullWords : List (List Char) := [] :: ['~'] :: inThreeCases "null".toList

/-- The marks that start tags, anchors and aliases. -/
def propertyMarks : List (List Char) := [['!'], ['&'], ['*']]

/-- The tag that a form on one line implies. -/
def Tag.ofForm (cs : List Char) : Tag :=
  if trueWords.contains cs || falseWords.contains cs then .bool
  else if isFloatForm cs then .float
  else if isIntForm cs then .int
  else if cs = ['<', '<'] then .merge
  else if nullWords.contains cs then .null
  else if isTimestampForm cs then .timestamp
  else if cs = ['='] then .value
  else if propertyMarks.contains cs then .other (coreSpace ++ "yaml")
  else .str

/-- The tag that the form of a scalar implies. One line feed after the form changes nothing. -/
def Tag.implied (cs : List Char) : Tag :=
  if cs = ['\n'] then .str else .ofForm (Text.dropFinalNewline cs)

end StackCompiler.Yaml
