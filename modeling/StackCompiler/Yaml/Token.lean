import StackCompiler.Yaml.Printer

/-!
# Tokens

The tokens of a YAML text and the cursor that moves over its characters.
-/

namespace StackCompiler.Yaml

/-- Why a text is no document, or a scalar has no value. -/
inductive Fault where
  | malformed
  | badValue
  | outOfRange
  | noTruthValue (word : String)
  | emptyNumber
  | noTime
  /-- A mapping where the text of a time is demanded. -/
  | wrongType
  /-- Collections inside one another beyond what is read. -/
  | tooDeep
  deriving DecidableEq, Repr

/-- What a line that starts with a percent sign says. -/
inductive Directive where
  | version (major minor : Nat)
  | tag (handle start : String)
  | unknown
  deriving DecidableEq, Repr

inductive Token where
  | directive (d : Directive)
  | documentStart
  | documentEnd
  | blockSequenceStart
  | blockMappingStart
  | blockEnd
  | flowSequenceStart
  | flowSequenceEnd
  | flowMappingStart
  | flowMappingEnd
  | blockEntry
  | flowEntry
  | key
  | value
  | alias (name : String)
  | anchor (name : String)
  | tag (handle : Option String) (suffix : String)
  | scalar (text : List Char) (isPlain : Bool)
  | streamEnd
  /-- The text goes on, and not in a way that makes tokens. -/
  | fault (f : Fault)
  deriving DecidableEq, Repr

/-- A place in a text, and the text from there on; `size` is the length of the whole text. -/
structure Cursor where
  rest : List Char
  size : Nat := rest.length
  index : Nat := 0
  line : Nat := 0
  column : Nat := 0

namespace Cursor

/-- How many characters are left. -/
def left (c : Cursor) : Nat := c.size - c.index

/-- The next character; the end of the text reads as a null character. -/
def peek (c : Cursor) : Char := c.rest.headD '\x00'

/-- The character a few places further on. -/
def peekAt (c : Cursor) (n : Nat) : Char := (c.rest.drop n).headD '\x00'

/-- A byte order mark takes no column. -/
def advance (c : Cursor) : Cursor :=
  match c.rest with
  | [] => c
  | ch :: rest =>
    if isBreak ch then { c with rest, index := c.index + 1, line := c.line + 1, column := 0 }
    else
      let column := if ch = '\uFEFF' then c.column else c.column + 1
      { c with rest, index := c.index + 1, column }

def advanceBy : Nat → Cursor → Cursor
  | 0, c => c
  | n + 1, c => advanceBy n c.advance

/-- The characters up to the first that does not satisfy `p`. -/
def takeWhile (p : Char → Bool) (c : Cursor) : List Char × Cursor :=
  let run := c.rest.takeWhile p
  (run, c.advanceBy run.length)

def skipWhile (p : Char → Bool) (c : Cursor) : Cursor := (c.takeWhile p).2

def skipSpaces (c : Cursor) : Cursor := c.skipWhile (· == ' ')

/-- A line break and the character that it stands for. -/
def lineBreak? (c : Cursor) : Option (Char × Cursor) :=
  if isBreak c.peek then some (if c.peek = '\x85' then '\n' else c.peek, c.advance) else none

/-- Whether the mark of a document's start or end comes next, with a gap after it. -/
def isAtMark (c : Cursor) : Bool := startsWithMark c.rest && gapFollows (c.rest.drop 3)

end Cursor

def isBreakOrEnd (c : Char) : Bool := isBreak c || c == '\x00'

/-- A character of a name: letters, digits, hyphen and underscore of ASCII. -/
def isNameChar (c : Char) : Bool := c.isAlphanum || c == '-' || c == '_'

end StackCompiler.Yaml
