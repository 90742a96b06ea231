import StackCompiler.Text.CaseTable

/-!
# Case of texts

`upper`, `lower` and `swapCase` change the case of a text, `fold` removes case distinctions. The
image of a character may have several characters. A capital sigma goes to the final form where a
cased character comes before it and none after it, characters that are case-ignorable being
skipped on both sides.
-/

namespace StackCompiler.Text

def isUpper (c : Char) : Bool :=
  if c.toNat < 128 then 'A' ≤ c && c ≤ 'Z' else inRuns CaseTable.upperRuns c

def isLower (c : Char) : Bool :=
  if c.toNat < 128 then 'a' ≤ c && c ≤ 'z' else inRuns CaseTable.lowerRuns c

/-- Cased, for a character that is not case-ignorable. -/
def isCased (c : Char) : Bool :=
  if c.toNat < 128 then c.isAlpha else inRuns CaseTable.casedRuns c

def isCaseIgnorable (c : Char) : Bool :=
  if c.toNat < 128 then ['\'', '.', ':', '^', '`'].contains c
  else inRuns CaseTable.ignorableRuns c

def upperChar (c : Char) : List Char :=
  if c.toNat < 128 then [c.toUpper]
  else image CaseTable.upperShifts CaseTable.upperExpansions c

/-- The lower case of a character without regard to its place. -/
def lowerChar (c : Char) : List Char :=
  if c.toNat < 128 then [c.toLower]
  else image CaseTable.lowerShifts CaseTable.lowerExpansions c

def foldChar (c : Char) : List Char :=
  if c.toNat < 128 then [c.toLower]
  else image CaseTable.foldShifts CaseTable.foldExpansions c

/-- Whether the first character that is not case-ignorable is cased. -/
def startsCased (cs : List Char) : Bool :=
  match cs.dropWhile isCaseIgnorable with
  | [] => false
  | c :: _ => isCased c

/-- The lower case of `c` between a text whose end is cased or not and the text `after`. -/
def lowerIn (endsCased : Bool) (c : Char) (after : List Char) : List Char :=
  if c = 'Σ' then [if endsCased && !startsCased after then 'ς' else 'σ'] else lowerChar c

/-- Whether a text ends cased once `c` is appended. -/
def endsCasedAfter (endsCased : Bool) (c : Char) : Bool :=
  if isCaseIgnorable c then endsCased else isCased c

/-- Maps each character by `f`, which sees whether the text before it ends cased and the text
after it. -/
def mapInContext (f : Bool → Char → List Char → List Char) : Bool → List Char → List Char
  | _, [] => []
  | endsCased, c :: cs =>
    f endsCased c cs ++ mapInContext f (endsCasedAfter endsCased c) cs

def upperChars (cs : List Char) : List Char := cs.flatMap upperChar

def lowerChars (cs : List Char) : List Char := mapInContext lowerIn false cs

def foldChars (cs : List Char) : List Char := cs.flatMap foldChar

def swapIn (endsCased : Bool) (c : Char) (after : List Char) : List Char :=
  if isUpper c then lowerIn endsCased c after
  else if isLower c then upperChar c
  else [c]

def swapCaseChars (cs : List Char) : List Char := mapInContext swapIn false cs

def upper (s : String) : String := String.ofList (upperChars s.toList)

def lower (s : String) : String := String.ofList (lowerChars s.toList)

/-- The form in which texts that differ in case alone agree. -/
def fold (s : String) : String := String.ofList (foldChars s.toList)

/-- Upper case characters made lower case and the other way round. -/
def swapCase (s : String) : String := String.ofList (swapCaseChars s.toList)

end StackCompiler.Text
