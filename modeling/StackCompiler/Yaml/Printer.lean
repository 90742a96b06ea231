import StackCompiler.Data.Basic
import StackCompiler.Yaml.Tag

/-!
# Writing YAML

`Yaml.write` writes data in block style, one entry a line. A text is written plain where it reads
back as itself, else between apostrophes, and between quotation marks with escapes where it has
characters beyond printable ASCII. Texts are folded at blanks once a line is longer than eighty
characters.
-/

namespace StackCompiler.Yaml

/-! ## What a text needs -/

def isBreak (c : Char) : Bool := c == '\n' || c == '\x85' || c == '\u2028' || c == '\u2029'

/-- Blanks, tabs, line ends and the end of the text. -/
def isGap (c : Char) : Bool :=
  c == ' ' || c == '\t' || c == '\r' || c == '\x00' || isBreak c

/-- Characters that are written as they are. -/
def isPlainAscii (c : Char) : Bool := 0x20 ≤ c.toNat && c.toNat ≤ 0x7E

/-- Characters that mean something else at the start of a text. -/
def isLeadIndicator (c : Char) : Bool := "#,[]\x7b\x7d&*!|>'\"%@`".toList.contains c

/-- Whether a text starts with the mark of a document's start or end. -/
def startsWithMark : List Char → Bool
  | '-' :: '-' :: '-' :: _ | '.' :: '.' :: '.' :: _ => true
  | _ => false

/-- Whether what follows a character is a gap. -/
def gapFollows : List Char → Bool
  | [] => true
  | c :: _ => isGap c

/-- Whether an indicator stands in the text after its first character. -/
def hasInnerIndicator (before : Char) : List Char → Bool
  | [] => false
  | c :: cs =>
    (c == ':' && gapFollows cs) || (c == '#' && isGap before) || hasInnerIndicator c cs

/-- Whether the characters of a text would be taken for the structure of the document. -/
def hasIndicators (cs : List Char) : Bool :=
  startsWithMark cs ||
  match cs with
  | [] => false
  | c :: rest =>
    isLeadIndicator c || ((c == '?' || c == ':' || c == '-') && gapFollows rest) ||
      hasInnerIndicator c rest

/-- Whether a character of the first kind comes directly before one of the second kind. -/
def hasPair (p q : Char → Bool) : List Char → Bool
  | c :: d :: cs => (p c && q d) || hasPair p q (d :: cs)
  | _ => false

def isBlankChar (c : Char) : Bool := c == ' '

/-- How a text can be written. -/
structure Traits where
  isEmpty : Bool
  isMultiline : Bool
  allowsPlain : Bool
  allowsQuotes : Bool
  deriving DecidableEq, Repr

def traits (cs : List Char) : Traits :=
  let multiline := cs.any isBreak
  let special := cs.any fun c => !(c == '\n' || isPlainAscii c)
  let edge (c? : Option Char) : Bool :=
    match c? with
    | some c => isBlankChar c || isBreak c
    | none => false
  let beforeBreak := hasPair isBlankChar isBreak cs
  let afterBreak := hasPair isBreak isBlankChar cs
  { isEmpty := cs.isEmpty
    isMultiline := multiline
    allowsPlain := !(edge cs.head? || edge cs.getLast? || afterBreak || beforeBreak || special ||
      multiline || hasIndicators cs)
    allowsQuotes := !(afterBreak || beforeBreak || special) }

inductive Style where
  | plain
  | quoted
  | escaped
  deriving DecidableEq, Repr

/-- The way a text is written; as the key of an entry it must stay on one line. -/
def styleOf (isKey : Bool) (cs : List Char) : Style :=
  let t := traits cs
  if Tag.implied cs == .str && t.allowsPlain && !(isKey && (t.isEmpty || t.isMultiline)) then .plain
  else if t.allowsQuotes && !(isKey && t.isMultiline) then .quoted
  else .escaped

/-- The length from which a text is no simple key, with the five characters of its tag. -/
def simpleKeyLength : Nat := 128 - "!!str".length

/-- Whether a text can be followed by a colon on its line. -/
def isSimpleKey (cs : List Char) : Bool :=
  !cs.isEmpty && !cs.any isBreak && cs.length < simpleKeyLength

/-! ## The pen -/

/-- Lines longer than this are folded. -/
def lineWidth : Nat := 80

/-- What is written, and where on its line the next character goes. `afterGap` holds after a
blank, and `atIndent` where only blanks and indicators stand on the line. -/
structure Pen where
  text : String := ""
  column : Nat := 0
  afterGap : Bool := true
  atIndent : Bool := true

namespace Pen

def put (pen : Pen) (cs : List Char) : Pen :=
  { pen with text := cs.foldl String.push pen.text, column := pen.column + cs.length }

def newline (pen : Pen) : Pen :=
  { text := pen.text.push '\n', column := 0, afterGap := true, atIndent := true }

/-- Moves to a line of which only the indentation is written. -/
def indent (width : Nat) (pen : Pen) : Pen :=
  let pen :=
    if !pen.atIndent || width < pen.column || (pen.column == width && !pen.afterGap) then
      pen.newline
    else pen
  if pen.column < width then
    { pen.put (List.replicate (width - pen.column) ' ') with afterGap := true }
  else pen

/-- Writes an indicator, after a blank if it needs one. -/
def indicator (mark : Char) (needsGap staysAtIndent : Bool) (pen : Pen) : Pen :=
  let pen := pen.put (if pen.afterGap || !needsGap then [mark] else [' ', mark])
  { pen with afterGap := false, atIndent := pen.atIndent && staysAtIndent }

end Pen

/-! ## Scalars -/

/-- A longest stretch of blanks, of line breaks, or of neither. -/
inductive Stretch where
  | blanks (count : Nat)
  | breaks (cs : List Char)
  | word (cs : List Char)

def addChar (c : Char) : List Stretch → List Stretch
  | .blanks n :: rest => if isBlankChar c then .blanks (n + 1) :: rest else next (.blanks n :: rest)
  | .breaks cs :: rest => if isBreak c then .breaks (c :: cs) :: rest else next (.breaks cs :: rest)
  | .word cs :: rest =>
    if isBlankChar c || isBreak c then next (.word cs :: rest) else .word (c :: cs) :: rest
  | [] => next []
where
  next (rest : List Stretch) : List Stretch :=
    (if isBlankChar c then .blanks 1 else if isBreak c then .breaks [c] else .word [c]) :: rest

def stretches (cs : List Char) : List Stretch := cs.foldr addChar []

/-- Blanks between two words. A single blank past the line width becomes a line end. -/
def putBlanks (width count : Nat) (mayFold : Bool) (pen : Pen) : Pen :=
  if count = 1 ∧ lineWidth < pen.column ∧ mayFold then pen.indent width
  else pen.put (List.replicate count ' ')

def putPlainStretches (width : Nat) (mayFold : Bool) : List Stretch → Pen → Pen
  | [], pen => pen
  | .blanks n :: rest, pen => putPlainStretches width mayFold rest (putBlanks width n mayFold pen)
  | .breaks cs :: rest, pen | .word cs :: rest, pen =>
    putPlainStretches width mayFold rest (pen.put cs)

/-- A plain text starts after a blank. -/
def putPlain (width : Nat) (mayFold : Bool) (cs : List Char) (pen : Pen) : Pen :=
  let pen := if pen.afterGap then pen else pen.put [' ']
  { putPlainStretches width mayFold (stretches cs) pen with afterGap := false, atIndent := false }

/-- A line end of the text is written as an empty line; other breaks stand for themselves. -/
def putBreaks (cs : List Char) (pen : Pen) : Pen :=
  let pen := if cs.head? = some '\n' then pen.newline else pen
  cs.foldl (fun pen c =>
    if c = '\n' then pen.newline else { pen.newline with text := pen.text.push c }) pen

/-- Blanks at either end of the text are never folded. -/
def putQuotedStretches (width : Nat) (mayFold isFirst : Bool) : List Stretch → Pen → Pen
  | [], pen => pen
  | .blanks n :: rest, pen =>
    let fold := mayFold && !isFirst && !rest.isEmpty
    putQuotedStretches width mayFold false rest (putBlanks width n fold pen)
  | .breaks cs :: rest, pen =>
    putQuotedStretches width mayFold false rest ((putBreaks cs pen).indent width)
  | .word cs :: rest, pen =>
    let doubled := cs.flatMap fun c => if c = '\'' then ['\'', '\''] else [c]
    putQuotedStretches width mayFold false rest (pen.put doubled)

def putQuoted (width : Nat) (mayFold : Bool) (cs : List Char) (pen : Pen) : Pen :=
  let pen := pen.indicator '\'' true false
  (putQuotedStretches width mayFold true (stretches cs) pen).indicator '\'' false false

def upperHexDigits (width n : Nat) : List Char :=
  let ds := (Nat.toDigits 16 n).map Char.toUpper
  List.replicate (width - ds.length) '0' ++ ds

/-- The letters of characters that have an escape of their own. -/
def escapeLetters : List (Char × Char) :=
  [('\x00', '0'), ('\x07', 'a'), ('\x08', 'b'), ('\t', 't'), ('\n', 'n'), ('\x0b', 'v'),
   ('\x0c', 'f'), ('\r', 'r'), ('\x1b', 'e'), ('"', '"'), ('\\', '\\'), ('\x85', 'N'),
   ('\xa0', '_'), ('\u2028', 'L'), ('\u2029', 'P')]

/-- The escape of a character between quotation marks, if it needs one. -/
def escape? (c : Char) : Option (List Char) :=
  match escapeLetters.lookup c with
  | some letter => some ['\\', letter]
  | none =>
    if isPlainAscii c then none
    else if c.toNat ≤ 0xFF then some ('\\' :: 'x' :: upperHexDigits 2 c.toNat)
    else if c.toNat ≤ 0xFFFF then some ('\\' :: 'u' :: upperHexDigits 4 c.toNat)
    else some ('\\' :: 'U' :: upperHexDigits 8 c.toNat)

/-- The rest of a text between quotation marks. `run` holds the characters read and not yet
written, the last one first. A long line ends before a blank, after an escape, or before the
character after an escape, with a backslash; a blank that starts the next line is escaped too. -/
def putEscapedChars (width : Nat) (mayFold : Bool) :
    Bool → List Char → List Char → Pen → Pen
  | _, run, [], pen => pen.put run.reverse
  | isFirst, run, c :: rest, pen =>
    let inside := mayFold && !isFirst && !rest.isEmpty
    let fold (pen : Pen) (next : Option Char) : Pen :=
      let pen := { (pen.put ['\\']).indent width with afterGap := false, atIndent := false }
      if next = some ' ' then pen.put ['\\'] else pen
    match escape? c with
    | some escaped =>
      let pen := (pen.put run.reverse).put escaped
      let pen := if inside && lineWidth + 1 < pen.column then fold pen rest.head? else pen
      putEscapedChars width mayFold false [] rest pen
    | none =>
      if inside && (c == ' ' || run.isEmpty) && lineWidth < pen.column + run.length then
        putEscapedChars width mayFold false [c] rest (fold (pen.put run.reverse) (some c))
      else putEscapedChars width mayFold false (c :: run) rest pen

def putEscaped (width : Nat) (mayFold : Bool) (cs : List Char) (pen : Pen) : Pen :=
  let pen := pen.indicator '"' true false
  (putEscapedChars width mayFold true [] cs pen).indicator '"' false false

def putText (width : Nat) (isKey : Bool) (cs : List Char) (pen : Pen) : Pen :=
  match styleOf isKey cs with
  | .plain => putPlain width (!isKey) cs pen
  | .quoted => putQuoted width (!isKey) cs pen
  | .escaped => putEscaped width (!isKey) cs pen

/-- The written form of a scalar that is no text. -/
def plainForm : Scalar → String
  | .null => "null"
  | .bool b => if b then "true" else "false"
  | .int n => toString n
  | .float x => x.textWith ".nan" ".inf"
  | other => other.display

def putScalar (width : Nat) (isKey : Bool) : Scalar → Pen → Pen
  | .str s, pen => putText width isKey s.toList pen
  | other, pen => putPlain width (!isKey) (plainForm other).toList pen

/-! ## Collections -/

/-- How far the parts of a collection are indented. -/
def indentStep : Nat := 2

def isSimpleKeyScalar : Scalar → Bool
  | .str s => isSimpleKey s.toList
  | _ => true

/-- The key of an entry, up to its colon. A key that is not simple stands after a question mark. -/
def putKey (width : Nat) (key : Scalar) (pen : Pen) : Pen :=
  let pen := pen.indent width
  let inner := width + indentStep
  if isSimpleKeyScalar key then (putScalar inner true key pen).indicator ':' false false
  else
    let pen := putScalar inner false key (pen.indicator '?' true true)
    (pen.indent width).indicator ':' true true

def putEmpty (opening closing : Char) (pen : Pen) : Pen :=
  ((pen.indicator opening true false).indicator closing false false)

/-- A set is written as the keys of entries without values. -/
def putMembers (width : Nat) (members : List Scalar) (pen : Pen) : Pen :=
  members.foldl (fun pen s => putScalar (width + indentStep) false .null (putKey width s pen)) pen

mutual

/-- A node inside a collection indented by `width`; the items of a list that is the value of an
entry are not indented further. -/
def putNode (width : Nat) (inMap : Bool) : Data → Pen → Pen
  | .scalar s, pen => putScalar (width + indentStep) false s pen
  | .list [], pen => putEmpty '[' ']' pen
  | .list (x :: xs), pen =>
    let inner := if inMap && !pen.atIndent then width else width + indentStep
    putItems inner (x :: xs) pen
  | .map [], pen => putEmpty '\x7b' '\x7d' pen
  | .map (e :: es), pen => putEntries (width + indentStep) (e :: es) pen
  | .set members, pen => putMembers (width + indentStep) members pen

def putItems (width : Nat) : List Data → Pen → Pen
  | [], pen => pen
  | x :: xs, pen =>
    putItems width xs (putNode width false x ((pen.indent width).indicator '-' true true))

def putEntries (width : Nat) : List (Scalar × Data) → Pen → Pen
  | [], pen => pen
  | (k, v) :: es, pen => putEntries width es (putNode width true v (putKey width k pen))

end

/-- A document; its outermost collection is not indented. -/
def putRoot : Data → Pen → Pen
  | .map (e :: es), pen => putEntries 0 (e :: es) pen
  | .list (x :: xs), pen => putItems 0 (x :: xs) pen
  | other, pen => putNode 0 false other pen

def write (d : Data) : String := ((putRoot d {}).indent 0).text

end StackCompiler.Yaml
