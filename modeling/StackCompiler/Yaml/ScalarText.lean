import StackCompiler.Encoding.Unicode
import StackCompiler.Yaml.Token

/-!
# Reading scalars

The text of a scalar in its four written forms: plain, between apostrophes, between quotation
marks, and as a block of lines. A line end inside a scalar is folded to a blank, except in a literal
block; more than one stands for all but the first.
-/

namespace StackCompiler.Yaml

open Text (isAsciiDigit ofAsciiDigits)

/-- A line end between words, and the empty lines after it. -/
def foldedBreak (first : Char) (more : List Char) : List Char :=
  if first ≠ '\n' then first :: more
  else if more.isEmpty then [' '] else more

/-! ## Plain scalars -/

def isFlowMark (c : Char) : Bool := c == ',' || c == '[' || c == ']' || c == '\x7b' || c == '\x7d'

/-- The characters of a plain scalar up to a gap or an indicator. -/
def plainRun (inFlow : Bool) : List Char → List Char
  | [] => []
  | c :: cs =>
    let colonEnds := c == ':' && (gapFollows cs || (inFlow && isFlowMark (cs.headD '\x00')))
    if isGap c || colonEnds || (inFlow && (isFlowMark c || c == '?')) then []
    else c :: plainRun inFlow cs

/-- Line breaks and blanks in any order, as the breaks; none where a document mark follows. -/
def plainBreaks : Nat → List Char → Cursor → Option (List Char × Cursor)
  | 0, acc, c => some (acc.reverse, c)
  | fuel + 1, acc, c =>
    if c.peek == ' ' then plainBreaks fuel acc c.advance
    else match c.lineBreak? with
      | some (b, c) => if c.isAtMark then none else plainBreaks fuel (b :: acc) c
      | none => some (acc.reverse, c)

/-- The blanks between two runs of a plain scalar: what they stand for, whether a line ended, and
where the next run starts. -/
def plainGap (c : Cursor) : Option (List Char) × Bool × Cursor :=
  let (blanks, next) := c.takeWhile (· == ' ')
  match next.lineBreak? with
  | some (b, after) =>
    if after.isAtMark then (none, true, after)
    else match plainBreaks after.left [] after with
      | some (more, c) => (some (foldedBreak b more), true, c)
      | none => (none, true, after)
  | none => (if blanks.isEmpty then none else some blanks, false, next)

/-- A plain scalar and whether a line ended in it or after it. `acc` holds the runs and gaps so far,
the last of them first. -/
def plainScalar (inFlow : Bool) (indent : Int) (c : Cursor) : List Char × Bool × Cursor :=
  let rec go : Nat → List (List Char) → List Char → Bool → Cursor →
      List (List Char) × Bool × Cursor
    | 0, acc, _, ended, c => (acc, ended, c)
    | fuel + 1, acc, gap, ended, c =>
      let run := if c.peek == '#' then [] else plainRun inFlow c.rest
      if run.isEmpty then (acc, ended, c)
      else
        let acc := run :: gap :: acc
        let (gap?, ended, next) := plainGap (c.advanceBy run.length)
        match gap? with
        | none => (acc, ended, next)
        | some gap =>
          if next.peek == '#' || (!inFlow && (next.column : Int) ≤ indent) then (acc, ended, next)
          else go fuel acc gap ended next
  let (acc, ended, c) := go (c.left + 1) [] [] false c
  (acc.reverse.flatten, ended, c)

/-! ## Quoted scalars -/

/-- The characters that follow a backslash and stand for one character. -/
def escapedLetters : List (Char × Char) :=
  [('0', '\x00'), ('a', '\x07'), ('b', '\x08'), ('t', '\t'), ('\t', '\t'), ('n', '\n'),
   ('v', '\x0b'), ('f', '\x0c'), ('r', '\r'), ('e', '\x1b'), (' ', ' '), ('"', '"'),
   ('\\', '\\'), ('/', '/'), ('N', '\x85'), ('_', '\xa0'), ('L', '\u2028'), ('P', '\u2029')]

/-- How many hexadecimal digits follow a letter. -/
def escapeWidths : List (Char × Nat) := [('x', 2), ('u', 4), ('U', 8)]

def hexadecimalValue (cs : List Char) : Nat :=
  cs.foldl (fun n c =>
    n * 16 + (if isAsciiDigit c then c.toNat - 48 else c.toLower.toNat - 87)) 0

/-- The character of a code; there is none beyond the last code point. -/
def charOfCode (n : Nat) : Except Fault Char :=
  if n ≤ 0x10FFFF then .ok (Unicode.char n)
  else if n < Nat.pow 2 31 then .error .badValue
  else .error .outOfRange

/-- The code that a letter and the hexadecimal digits after it give. -/
def escapedCode? (c : Cursor) : Option (Nat × Cursor) := do
  let width ← escapeWidths.lookup c.peek
  let digits := (c.rest.drop 1).take width
  if digits.length = width && digits.all isHexadecimal then
    some (hexadecimalValue digits, c.advanceBy (width + 1))
  else none

/-- The character of a code and of one that is escaped right after it, if they are a surrogate
pair. -/
def joined? (n : Nat) (c : Cursor) : Option (Char × Cursor) := do
  if c.peek ≠ '\\' then none
  let (m, c) ← escapedCode? c.advance
  return (← Unicode.ofSurrogates? n m, c)

/-- Empty lines and the blanks that start the lines after them, as the breaks. -/
def quotedBreaks : Nat → List Char → Cursor → Except Fault (List Char × Cursor)
  | 0, _, _ => .error .malformed
  | fuel + 1, acc, c =>
    if c.isAtMark then .error .malformed
    else
      let c := c.skipWhile isSpaceOrTab
      match c.lineBreak? with
      | some (b, c) => quotedBreaks fuel (b :: acc) c
      | none => .ok (acc.reverse, c)

/-- The gap between two words of a quoted scalar. -/
def quotedGap (c : Cursor) : Except Fault (List Char × Cursor) :=
  let (blanks, next) := c.takeWhile isSpaceOrTab
  if next.rest.isEmpty then .error .malformed
  else match next.lineBreak? with
    | some (b, next) => do
      let (more, next) ← quotedBreaks (next.left + 1) [] next
      return (foldedBreak b more, next)
    | none => .ok (blanks, next)

/-- What a backslash and the characters after it stand for. -/
def escapeSequence (c : Cursor) : Except Fault (List Char × Cursor) :=
  match escapedLetters.lookup c.peek, escapedCode? c with
  | some ch, _ => .ok ([ch], c.advance)
  | none, some (n, c) =>
    match joined? n c with
    | some (ch, c) => .ok ([ch], c)
    | none => (charOfCode n).map fun ch => ([ch], c)
  | none, none =>
    match c.lineBreak? with
    | some (_, c) => quotedBreaks (c.left + 1) [] c
    | none => .error .malformed

/-- The characters up to the closing mark; `acc` holds those read so far. -/
def quotedScalar (isDouble : Bool) (c : Cursor) : Except Fault (List Char × Cursor) :=
  let mark := if isDouble then '"' else '\''
  let rec go : Nat → List (List Char) → Cursor → Except Fault (List Char × Cursor)
    | 0, _, _ => .error .malformed
    | fuel + 1, acc, c =>
      let ch := c.peek
      if !isDouble && ch == mark && c.peekAt 1 == mark then go fuel ([mark] :: acc) (c.advanceBy 2)
      else if ch == mark then .ok (acc.reverse.flatten, c.advance)
      else if isDouble && ch == '\\' then
        match escapeSequence c.advance with
        | .ok (cs, c) => go fuel (cs :: acc) c
        | .error f => .error f
      else if isGap ch then
        match quotedGap c with
        | .ok (cs, c) => go fuel (cs :: acc) c
        | .error f => .error f
      else
        let (run, c) := c.takeWhile fun d => !(isGap d || d == mark || d == '\\')
        let (run, c) := if run.isEmpty then ([ch], c.advance) else (run, c)
        go fuel (run :: acc) c
  go (c.left + 1) [] c.advance

/-! ## Block scalars -/

/-- Whether a blank, a line end or the end of the text comes next. -/
def endsWord (c : Cursor) : Bool := c.peek == ' ' || isBreakOrEnd c.peek

/-- What becomes of the line ends after the last line. -/
inductive Chomping where
  | strip
  | clip
  | keep
  deriving DecidableEq, Repr

def chompingOf? (c : Char) : Option Chomping :=
  if c = '+' then some .keep else if c = '-' then some .strip else none

/-- A positive digit; zero is refused. -/
def indentDigit (c : Cursor) : Except Fault (Option Nat × Cursor) :=
  if isAsciiDigit c.peek then
    if c.peek = '0' then .error .malformed else .ok (some (c.peek.toNat - 48), c.advance)
  else .ok (none, c)

/-- The indicators after the mark of a block, in either order. -/
def blockIndicators (c : Cursor) : Except Fault ((Chomping × Option Nat) × Cursor) := do
  match chompingOf? c.peek with
  | some chomping =>
    let (width, c) ← indentDigit c.advance
    return ((chomping, width), c)
  | none =>
    let (width, c) ← indentDigit c
    match width, chompingOf? c.peek with
    | some _, some chomping => return ((chomping, width), c.advance)
    | _, _ => return ((.clip, width), c)

/-- The rest of a line that may hold a comment only. -/
def commentLine (c : Cursor) : Except Fault Cursor :=
  let c := c.skipSpaces
  let c := if c.peek == '#' then c.skipWhile fun d => !isBreak d else c
  if c.rest.isEmpty then .ok c
  else match c.lineBreak? with
    | some (_, c) => .ok c
    | none => .error .malformed

/-- Blanks up to a column. -/
def skipIndent (width : Int) : Nat → Cursor → Cursor
  | 0, c => c
  | fuel + 1, c =>
    if (c.column : Int) < width ∧ c.peek = ' ' then skipIndent width fuel c.advance else c

/-- Empty lines, as their breaks. -/
def blockBreaks (width : Int) : Nat → List Char → Cursor → List Char × Cursor
  | 0, acc, c => (acc.reverse, c)
  | fuel + 1, acc, c =>
    let c := skipIndent width c.left c
    match c.lineBreak? with
    | some (b, c) => blockBreaks width fuel (b :: acc) c
    | none => (acc.reverse, c)

/-- Empty lines and blanks before the first line: their breaks and the furthest column. -/
def leadingBreaks : Nat → List Char → Nat → Cursor → List Char × Nat × Cursor
  | 0, acc, furthest, c => (acc.reverse, furthest, c)
  | fuel + 1, acc, furthest, c =>
    if c.peek = ' ' then leadingBreaks fuel acc (max furthest c.advance.column) c.advance
    else match c.lineBreak? with
      | some (b, c) => leadingBreaks fuel (b :: acc) furthest c
      | none => (acc.reverse, furthest, c)

/-- The lines of a block, added to `acc`, the last of them first. `breaks` are the empty lines
before the next line. -/
def blockLines (isFolded : Bool) (chomping : Chomping) (width : Int) :
    Nat → List (List Char) → List Char → Cursor → List (List Char) × Cursor
  | 0, acc, _, c => (acc, c)
  | fuel + 1, acc, breaks, c =>
    let startsText := !isSpaceOrTab c.peek
    let (line, c) := c.takeWhile fun d => !isBreak d
    let acc := line :: breaks :: acc
    let (ending, c) := match c.lineBreak? with
      | some (b, c) => ([b], c)
      | none => ([], c)
    let (breaks, c) := blockBreaks width (c.left + 1) [] c
    if (c.column : Int) = width ∧ !c.rest.isEmpty then
      let joins := isFolded && ending == ['\n'] && startsText && !isSpaceOrTab c.peek
      let joint := if joins then (if breaks.isEmpty then [' '] else []) else ending
      blockLines isFolded chomping width fuel (joint :: acc) breaks c
    else match chomping with
      | .strip => (acc, c)
      | .clip => (ending :: acc, c)
      | .keep => (breaks :: ending :: acc, c)

/-- A block of lines inside a collection indented by `indent`. -/
def blockScalar (isFolded : Bool) (indent : Int) (c : Cursor) :
    Except Fault (List Char × Cursor) := do
  let ((chomping, given), c) ← blockIndicators c.advance
  if !endsWord c then throw .malformed
  let c ← commentLine c
  let least := max (indent + 1) 1
  let (breaks, width, c) : List Char × Int × Cursor := match given with
    | some n =>
      let width := least + n - 1
      let (breaks, c) := blockBreaks width (c.left + 1) [] c
      (breaks, width, c)
    | none =>
      let (breaks, furthest, c) := leadingBreaks (c.left + 1) [] 0 c
      (breaks, max least furthest, c)
  if (c.column : Int) = width ∧ !c.rest.isEmpty then
    let (acc, c) := blockLines isFolded chomping width (c.left + 1) [] breaks c
    return (acc.reverse.flatten, c)
  else return (if chomping = .keep then breaks else [], c)

/-! ## Names -/

/-- The name of an anchor or an alias, after its mark. -/
def anchorName (c : Cursor) : Except Fault (String × Cursor) :=
  let (name, c) := c.takeWhile isNameChar
  if name.isEmpty then .error .malformed
  else if isGap c.peek || "?:,]\x7d%@`".toList.contains c.peek then .ok (String.ofList name, c)
  else .error .malformed

/-- A character of a tag that stands for itself. -/
def isTagChar (c : Char) : Bool := c.isAlphanum || "-;/?:@&=+$,_.!~*'()[]".toList.contains c

/-- The bytes of consecutive percent escapes. -/
def escapedBytes : List Char → Option (List UInt8 × Nat)
  | '%' :: a :: b :: rest =>
    if isHexadecimal a && isHexadecimal b then
      match escapedBytes rest with
      | some (bs, n) => some (UInt8.ofNat (hexadecimalValue [a, b]) :: bs, n + 3)
      | none => none
    else none
  | '%' :: _ => none
  | _ => some ([], 0)

/-- A part of a tag. -/
def tagText (c : Cursor) : Except Fault (String × Cursor) :=
  let rec go : Nat → List Char → Cursor → Except Fault (List Char × Cursor)
    | 0, acc, c => .ok (acc, c)
    | fuel + 1, acc, c =>
      if c.peek = '%' then
        match escapedBytes c.rest with
        | some (bytes, n) =>
          match Utf8.decode? bytes with
          | some s => go fuel (acc ++ s.toList) (c.advanceBy n)
          | none => .error .malformed
        | none => .error .malformed
      else
        let (run, next) := c.takeWhile isTagChar
        if run.isEmpty then .ok (acc, c) else go fuel (acc ++ run) next
  do
    let (text, c) ← go (c.left + 1) [] c
    if text.isEmpty then throw .malformed
    return (String.ofList text, c)

/-- The handle of a tag: `!`, or a name between two of them. -/
def tagHandle (c : Cursor) : Except Fault (String × Cursor) :=
  if c.peek ≠ '!' then .error .malformed
  else if c.peekAt 1 = ' ' then .ok ("!", c.advance)
  else
    let (name, next) := c.advance.takeWhile isNameChar
    if next.peek = '!' then .ok (String.ofList ('!' :: name ++ ['!']), next.advance)
    else .error .malformed

/-- Whether the characters up to a gap hold an exclamation mark. -/
def hasHandle (cs : List Char) : Bool :=
  (cs.takeWhile fun c => !(c == ' ' || isBreak c)).contains '!'

/-- A tag: a text in angle brackets, a single mark, or a handle and a suffix. -/
def tagToken (c : Cursor) : Except Fault (Token × Cursor) := do
  let (token, c) ←
    if c.peekAt 1 = '<' then do
      let (text, c) ← tagText (c.advanceBy 2)
      if c.peek ≠ '>' then throw .malformed
      pure (Token.tag none text, c.advance)
    else if isGap (c.peekAt 1) then pure (Token.tag none "!", c.advance)
    else if hasHandle (c.rest.drop 1) then do
      let (handle, c) ← tagHandle c
      let (suffix, c) ← tagText c
      pure (Token.tag (some handle) suffix, c)
    else do
      let (suffix, c) ← tagText c.advance
      pure (Token.tag (some "!") suffix, c)
  if endsWord c then return (token, c) else throw .malformed

/-! ## Directives -/

def directiveNumber (c : Cursor) : Except Fault (Nat × Cursor) :=
  let (digits, c) := c.takeWhile isAsciiDigit
  if digits.isEmpty then .error .malformed
  else if Text.maxDigits < digits.length then .error .badValue
  else .ok (ofAsciiDigits digits, c)

def versionDirective (c : Cursor) : Except Fault (Directive × Cursor) := do
  let (major, c) ← directiveNumber c.skipSpaces
  if c.peek ≠ '.' then throw .malformed
  let (minor, c) ← directiveNumber c.advance
  if endsWord c then return (.version major minor, c) else throw .malformed

def tagDirective (c : Cursor) : Except Fault (Directive × Cursor) := do
  let (handle, c) ← tagHandle c.skipSpaces
  if c.peek ≠ ' ' then throw .malformed
  let (start, c) ← tagText c.skipSpaces
  if endsWord c then return (.tag handle start, c) else throw .malformed

/-- A line that starts with a percent sign; what it says is ignored if its name is unknown. -/
def directiveLine (c : Cursor) : Except Fault (Directive × Cursor) := do
  let (name, c) := c.advance.takeWhile isNameChar
  if name.isEmpty || !endsWord c then throw .malformed
  let (directive, c) ←
    if name = "YAML".toList then versionDirective c
    else if name = "TAG".toList then tagDirective c
    else pure (Directive.unknown, c.skipWhile fun d => !isBreak d)
  return (directive, ← commentLine c)

end StackCompiler.Yaml
