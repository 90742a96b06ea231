import StackCompiler.Yaml.ScalarText

/-!
# Cutting a text into tokens

Indentation opens and closes block collections. A scalar may turn out to be a key only when a colon
follows it; until then its place among the tokens is remembered, and the tokens that start the key
are put there later.
-/

namespace StackCompiler.Yaml

/-- A token that may yet turn out to start a key. -/
structure PendingKey where
  tokenIndex : Nat
  /-- A block mapping cannot go on without the key. -/
  isRequired : Bool
  index : Nat
  line : Nat
  column : Nat

structure Lexer where
  cursor : Cursor
  /-- How many flow collections are open. -/
  flow : Nat := 0
  /-- The column of the innermost block collection. -/
  indent : Int := -1
  /-- The columns of the block collections around it. -/
  outer : List Int := []
  mayStartKey : Bool := true
  /-- The pending key of each flow level. -/
  pending : List (Nat × PendingKey) := []
  /-- The tokens so far, the last of them first. -/
  tokens : List Token := []
  count : Nat := 0

namespace Lexer

def inFlow (l : Lexer) : Bool := l.flow != 0

def emit (t : Token) (l : Lexer) : Lexer :=
  { l with tokens := t :: l.tokens, count := l.count + 1 }

/-- Puts a token at a place among the tokens. -/
def emitAt (place : Nat) (t : Token) (l : Lexer) : Lexer :=
  { l with tokens := l.tokens.insertIdx (l.count - place) t, count := l.count + 1 }

/-- Emits the token of an indicator. -/
def emitMark (t : Token) (width : Nat) (l : Lexer) : Lexer :=
  { l.emit t with cursor := l.cursor.advanceBy width }

/-! ## Pending keys -/

/-- The greatest distance between a key and its colon. -/
def maxKeyLength : Nat := 1024

def isStale (l : Lexer) (k : PendingKey) : Bool :=
  k.line != l.cursor.line || maxKeyLength < l.cursor.index - k.index

/-- Gives up the pending keys that a colon can no longer follow. -/
def dropStale (l : Lexer) : Except Fault Lexer :=
  if l.pending.any fun (_, k) => l.isStale k && k.isRequired then .error .malformed
  else .ok { l with pending := l.pending.filter fun (_, k) => !l.isStale k }

/-- Gives up the pending key of the current flow level. -/
def forgetKey (l : Lexer) : Except Fault Lexer :=
  match l.pending.lookup l.flow with
  | some k =>
    if k.isRequired then .error .malformed
    else .ok { l with pending := l.pending.filter (·.1 != l.flow) }
  | none => .ok l

/-- Remembers that the next token may start a key. -/
def noteKey (l : Lexer) : Except Fault Lexer :=
  if l.mayStartKey then do
    let required := !l.inFlow && l.indent == l.cursor.column
    let l ← l.forgetKey
    let c := l.cursor
    return { l with
      pending := (l.flow, ⟨l.count, required, c.index, c.line, c.column⟩) :: l.pending }
  else .ok l

/-! ## Indentation -/

/-- Closes the block collections that are indented further than a column. -/
def unwind (column : Int) (l : Lexer) : Lexer :=
  let rec go : List Int → Lexer → Lexer
    | [], l => l
    | i :: outer, l =>
      if column < l.indent then go outer { l.emit .blockEnd with indent := i, outer } else l
  if l.inFlow then l else go l.outer l

/-- Opens a block collection at a column, unless one is open there; its token is put at a place
among the tokens. -/
def openBlock (column : Nat) (place : Nat) (t : Token) (l : Lexer) : Lexer :=
  if l.indent < column then
    { l.emitAt place t with indent := column, outer := l.indent :: l.outer }
  else l

/-! ## Gaps -/

/-- Moves to the next token, over blanks, comments and line ends. -/
def skipGap (l : Lexer) : Lexer :=
  let rec go : Nat → Lexer → Lexer
    | 0, l => l
    | fuel + 1, l =>
      let c := l.cursor.skipSpaces
      let c := if c.peek == '#' then c.skipWhile fun d => !isBreak d else c
      match c.lineBreak? with
      | some (_, c) => go fuel { l with cursor := c, mayStartKey := l.mayStartKey || !l.inFlow }
      | none => { l with cursor := c }
  let c := l.cursor
  let c := if c.index = 0 ∧ c.peek = '\uFEFF' then c.advance else c
  go (c.left + 1) { l with cursor := c }

/-! ## Indicators -/

/-- A directive or a document mark, which closes all block collections. -/
def documentMark (t : Token) (width : Nat) (l : Lexer) : Except Fault Lexer := do
  let l ← (l.unwind (-1)).forgetKey
  return { l.emitMark t width with mayStartKey := false }

def directive (l : Lexer) : Except Fault Lexer := do
  let l ← (l.unwind (-1)).forgetKey
  let (d, c) ← directiveLine l.cursor
  return { l.emit (.directive d) with cursor := c, mayStartKey := false }

def flowStart (t : Token) (l : Lexer) : Except Fault Lexer := do
  let l ← l.noteKey
  return { l.emitMark t 1 with flow := l.flow + 1, mayStartKey := true }

/-- The end of a flow collection, of which one must be open. -/
def flowEnd (t : Token) (l : Lexer) : Except Fault Lexer := do
  let l ← l.forgetKey
  if l.inFlow then return { l.emitMark t 1 with flow := l.flow - 1, mayStartKey := false }
  else throw .malformed

def flowEntry (l : Lexer) : Except Fault Lexer := do
  let l ← l.forgetKey
  return { l.emitMark .flowEntry 1 with mayStartKey := true }

/-- Opens a block collection for an indicator at the cursor. -/
def openHere (t : Token) (l : Lexer) : Except Fault Lexer :=
  if l.inFlow then .ok l
  else if l.mayStartKey then .ok (l.openBlock l.cursor.column l.count t)
  else .error .malformed

def blockEntry (l : Lexer) : Except Fault Lexer := do
  let l ← l.openHere .blockSequenceStart
  let l ← l.forgetKey
  return { l.emitMark .blockEntry 1 with mayStartKey := true }

def key (l : Lexer) : Except Fault Lexer := do
  let l ← l.openHere .blockMappingStart
  let l ← l.forgetKey
  return { l.emitMark .key 1 with mayStartKey := !l.inFlow }

/-- A colon: what is pending is a key, or else the key is empty. -/
def value (l : Lexer) : Except Fault Lexer := do
  match l.pending.lookup l.flow with
  | some k =>
    let l := { l.emitAt k.tokenIndex .key with pending := l.pending.filter (·.1 != l.flow) }
    let l := if l.inFlow then l else l.openBlock k.column k.tokenIndex .blockMappingStart
    return { l.emitMark .value 1 with mayStartKey := false }
  | none =>
    let l ← l.openHere .blockMappingStart
    return { l.emitMark .value 1 with mayStartKey := !l.inFlow }

/-! ## Scalars and properties -/

/-- Emits what is read at the cursor; it may start a key. -/
def content (read : Cursor → Except Fault (Token × Cursor)) (l : Lexer) : Except Fault Lexer := do
  let l ← l.noteKey
  let (t, c) ← read l.cursor
  return { l.emit t with cursor := c, mayStartKey := false }

def anchorToken (make : String → Token) (c : Cursor) : Except Fault (Token × Cursor) := do
  let (name, c) ← anchorName c.advance
  return (make name, c)

def quoted (isDouble : Bool) (c : Cursor) : Except Fault (Token × Cursor) := do
  let (cs, c) ← quotedScalar isDouble c
  return (.scalar cs false, c)

def block (isFolded : Bool) (l : Lexer) : Except Fault Lexer := do
  let l ← l.forgetKey
  let (cs, c) ← blockScalar isFolded l.indent l.cursor
  return { l.emit (.scalar cs false) with cursor := c, mayStartKey := true }

def plain (l : Lexer) : Except Fault Lexer := do
  let l ← l.noteKey
  let (cs, lineEnded, c) := plainScalar l.inFlow l.indent l.cursor
  return { l.emit (.scalar cs true) with cursor := c, mayStartKey := lineEnded }

/-! ## Steps -/

/-- Whether a plain scalar can start at the cursor. -/
def startsPlain (l : Lexer) : Bool :=
  let ch := l.cursor.peek
  let ordinary := !(isGap ch || "-?:,[]\x7b\x7d#&*!|>'\"%@`".toList.contains ch)
  ordinary || (!isGap (l.cursor.peekAt 1) &&
    (ch == '-' || (!l.inFlow && (ch == '?' || ch == ':'))))

/-- The next token, at a cursor that is on no gap. -/
def step (l : Lexer) : Except Fault Lexer :=
  let c := l.cursor
  let ch := c.peek
  let gapAfter := isGap (c.peekAt 1)
  let atMark := c.column == 0 && c.isAtMark
  if ch = '%' ∧ c.column = 0 then l.directive
  else if ch = '-' ∧ atMark then l.documentMark .documentStart 3
  else if ch = '.' ∧ atMark then l.documentMark .documentEnd 3
  else if ch = '[' then l.flowStart .flowSequenceStart
  else if ch = '\x7b' then l.flowStart .flowMappingStart
  else if ch = ']' then l.flowEnd .flowSequenceEnd
  else if ch = '\x7d' then l.flowEnd .flowMappingEnd
  else if ch = ',' then l.flowEntry
  else if ch = '-' ∧ gapAfter then l.blockEntry
  else if ch = '?' ∧ (l.inFlow ∨ gapAfter) then l.key
  else if ch = ':' ∧ (l.inFlow ∨ gapAfter) then l.value
  else if ch = '*' then l.content (anchorToken .alias)
  else if ch = '&' then l.content (anchorToken .anchor)
  else if ch = '!' then l.content tagToken
  else if ch = '|' ∧ !l.inFlow then l.block false
  else if ch = '>' ∧ !l.inFlow then l.block true
  else if ch = '\'' then l.content (quoted false)
  else if ch = '"' then l.content (quoted true)
  else if l.startsPlain then l.plain
  else .error .malformed

/-- The end of the text closes all block collections. -/
def finish (l : Lexer) : Except Fault Lexer := do
  let l ← (l.unwind (-1)).forgetKey
  return l.emit .streamEnd

/-- How many tokens are certain: a token that may yet turn out to start a key may get others before
it. -/
def settled (l : Lexer) : Nat :=
  (l.pending.filter fun (_, k) => !l.isStale k).foldl (fun n (_, k) => min n k.tokenIndex)
    l.count

/-- The certain tokens, and the fault that comes after them. -/
def interrupted (l : Lexer) (f : Fault) : List Token :=
  (.fault f :: l.tokens.drop (l.count - l.settled)).reverse

/-- The tokens up to the end of the text; where the text makes none, the fault is the last one. -/
def run : Nat → Lexer → List Token
  | 0, l => l.interrupted .malformed
  | fuel + 1, l =>
    match l.skipGap.dropStale with
    | .error f => l.interrupted f
    | .ok next =>
      let next := next.unwind next.cursor.column
      if next.cursor.rest.isEmpty then
        match next.finish with
        | .ok done => done.tokens.reverse
        | .error f => l.interrupted f
      else match next.step with
        | .ok next => run fuel next
        | .error f => l.interrupted f

end Lexer

/-- Every token takes at least one character, so the fuel suffices. -/
def tokens (cs : List Char) : List Token :=
  Lexer.run (cs.length + 1) { cursor := { rest := cs } }

end StackCompiler.Yaml
