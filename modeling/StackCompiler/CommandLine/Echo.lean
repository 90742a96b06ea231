/-!
# Texts for the operator

What is printed is laid out for lines of eighty columns, and never changes how a terminal shows
text: `plain` takes out the sequences that would.
-/

namespace StackCompiler.CommandLine

/-! ## Terminal sequences -/

/-- What may stand between the start of a terminal sequence and its last letter. -/
def isSequenceParameter (c : Char) : Bool := c == ';' || c == '?' || c.isDigit

/-- How many characters after an escape character belong to its sequence, if it starts one. -/
def sequenceLength? (cs : List Char) : Option Nat :=
  match cs with
  | '[' :: cs =>
    let parameters := cs.takeWhile isSequenceParameter
    match cs.drop parameters.length with
    | c :: _ => if c.isAlpha then some (parameters.length + 2) else none
    | [] => none
  | _ => none

/-- The characters without terminal sequences, after those that are still to be left out. -/
def plainChars : Nat → List Char → List Char
  | _, [] => []
  | n + 1, _ :: cs => plainChars n cs
  | 0, c :: cs =>
    match (if c = '\x1b' then sequenceLength? cs else none) with
    | some n => plainChars n cs
    | none => c :: plainChars 0 cs

/-- A text without terminal sequences. -/
def plain (s : String) : String := String.ofList (plainChars 0 s.toList)

/-! ## Layout -/

/-- How many columns a line has. -/
def lineWidth : Nat := 78

def blanks (n : Nat) : String := String.ofList (List.replicate n ' ')

/-- Words on lines of a width, as many on each as fit. -/
def fillLines (width : Nat) (words : List String) : List String :=
  (words.foldl add []).reverse
where
  /-- The lines, the last of them first, with one more word. -/
  add : List String → String → List String
    | [], word => [word]
    | line :: lines, word =>
      if line.length + 1 + word.length ≤ width then (line ++ " " ++ word) :: lines
      else word :: line :: lines

def wordsOf (s : String) : List String := (s.splitOn " ").filter (!·.isEmpty)

/-- Two columns; the second one is filled beside the first. -/
def rows (entries : List (String × String)) : String :=
  let width := (entries.map (·.1.length)).foldl max 0 + 2
  String.join (entries.map fun (name, note) =>
    let lines := fillLines (lineWidth - width - 2) (wordsOf note)
    "  " ++ name ++ blanks (width - name.length) ++
      ("\n" ++ blanks (width + 2)).intercalate lines ++ "\n")

/-- The words of a summary that fit into a width. Three dots stand for those that do not. -/
def shortened (width : Nat) (summary : String) : String :=
  if summary.length ≤ width then summary
  else
    let kept := (wordsOf summary).foldl (fun kept word =>
      let longer := kept ++ [word]
      if (" ".intercalate longer).length + 3 ≤ width then longer else kept) []
    " ".intercalate kept ++ "..."

end StackCompiler.CommandLine
