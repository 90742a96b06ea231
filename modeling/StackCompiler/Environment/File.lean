import StackCompiler.Environment.Basic
import StackCompiler.Text.Blank
import StackCompiler.Text.Case

/-!
# Environment files

An environment file holds one binding a line: a name, an equals sign and a value. A value may stand
in single or double quotes and then run over several lines; without quotes it ends before a comment.
A line that is not read is passed over. A reference to a variable inside a value stands for the
value of the variable.
-/

namespace StackCompiler.EnvironmentFile

/-- A binding of a name; one without an equals sign has no value. -/
structure Binding where
  name : String
  value : Option String
  deriving DecidableEq, Repr

/-- What is read and the rest of the text, or the place where the reading stops. -/
abbrev Reading (α : Type) := Except (List Char) (α × List Char)

/-! ## Blanks and ends of lines -/

def isBreak (c : Char) : Bool := c = '\n' || c = '\r'

def isGap (c : Char) : Bool := Text.isBlank c && !isBreak c

def dropGaps (cs : List Char) : List Char := cs.dropWhile isGap

/-- The text after one line end at its start. -/
def dropBreak? : List Char → Option (List Char)
  | '\r' :: '\n' :: cs => some cs
  | '\n' :: cs => some cs
  | '\r' :: cs => some cs
  | _ => none

/-- The text after the line. -/
def dropLine (cs : List Char) : List Char :=
  match cs.dropWhile (!isBreak ·) with
  | [] => []
  | _ :: rest => rest

/-- A comment, blanks before it included. -/
def dropComment (cs : List Char) : List Char :=
  match dropGaps cs with
  | '#' :: rest => rest.dropWhile (!isBreak ·)
  | _ => cs

/-- Nothing but a comment may stand before the end of the line. -/
def lineEnd (cs : List Char) : Reading Unit :=
  let rest := dropComment cs
  match dropGaps rest with
  | [] => .ok ((), [])
  | after =>
    match dropBreak? after with
    | some next => .ok ((), next)
    | none => .error rest

/-! ## Names -/

/-- The word that may stand before a binding, with the blanks after it. -/
def dropExport (cs : List Char) : List Char :=
  match cs with
  | 'e' :: 'x' :: 'p' :: 'o' :: 'r' :: 't' :: rest =>
    match rest with
    | c :: _ => if isGap c then dropGaps rest else cs
    | [] => cs
  | _ => cs

def isNameChar (c : Char) : Bool := !Text.isBlank c && c ≠ '=' && c ≠ '#'

/-- A name, quoted or not; there is none before a comment. -/
def name (cs : List Char) : Reading (Option String) :=
  match cs with
  | '#' :: _ => .ok (none, cs)
  | '\'' :: rest =>
    match rest.span (· ≠ '\'') with
    | ([], _) | (_, []) => .error cs
    | (word, _ :: rest) => .ok (some (String.ofList word), rest)
  | _ =>
    match cs.span isNameChar with
    | ([], _) => .error cs
    | (word, rest) => .ok (some (String.ofList word), rest)

/-! ## Values -/

/-- The text before the closing quote and the text after it. A backslash and the character after it
belong together, so that a quote after a backslash closes nothing. -/
def quotedText? (quote : Char) : List Char → Option (List Char × List Char)
  | [] => none
  | ['\\'] => none
  | '\\' :: c :: cs =>
    (quotedText? quote cs).map fun (inner, rest) => ('\\' :: c :: inner, rest)
  | c :: cs =>
    if c = quote then some ([], cs)
    else (quotedText? quote cs).map fun (inner, rest) => (c :: inner, rest)

/-- What the character after a backslash stands for between double quotes. -/
def doubleEscape? : Char → Option Char
  | '\\' => some '\\'
  | '\'' => some '\''
  | '"' => some '"'
  | 'a' => some '\x07'
  | 'b' => some '\x08'
  | 'f' => some '\x0c'
  | 'n' => some '\n'
  | 'r' => some '\r'
  | 't' => some '\t'
  | 'v' => some '\x0b'
  | _ => none

/-- What it stands for between single quotes. -/
def singleEscape? : Char → Option Char
  | '\\' => some '\\'
  | '\'' => some '\''
  | _ => none

/-- The text with its escapes read; a backslash before any other character stands for itself. -/
def unescape (escape? : Char → Option Char) : List Char → List Char
  | [] => []
  | '\\' :: c :: cs =>
    match escape? c with
    | some d => d :: unescape escape? cs
    | none => '\\' :: unescape escape? (c :: cs)
  | c :: cs => c :: unescape escape? cs

/-- The text before a comment that a blank precedes. -/
def beforeComment : List Char → List Char
  | [] => []
  | [c] => [c]
  | c :: d :: cs => if Text.isBlank c && d = '#' then [] else c :: beforeComment (d :: cs)

def unquotedValue (cs : List Char) : String :=
  String.ofList (Text.strip (beforeComment cs))

/-- A value, with the blanks before it. -/
def value (written : List Char) : Reading String :=
  let cs := dropGaps written
  match cs with
  | '\'' :: rest =>
    match quotedText? '\'' rest with
    | some (inner, rest) => .ok (String.ofList (unescape singleEscape? inner), rest)
    | none => .error cs
  | '"' :: rest =>
    match quotedText? '"' rest with
    | some (inner, rest) => .ok (String.ofList (unescape doubleEscape? inner), rest)
    | none => .error cs
  | _ =>
    let (line, rest) := written.span (!isBreak ·)
    .ok (unquotedValue line, rest)

/-! ## Bindings -/

def optionalValue (cs : List Char) : Reading (Option String) :=
  match cs with
  | '=' :: rest => (value rest).map fun (v, rest) => (some v, rest)
  | _ => .ok (none, cs)

/-- One binding at the start of the text, if it is one. -/
def binding (cs : List Char) : Reading (Option Binding) :=
  match Text.dropBlanks cs with
  | [] => .ok (none, [])
  | cs =>
    match name (dropExport cs) with
    | .error rest => .error rest
    | .ok (name, rest) =>
      match optionalValue (dropGaps rest) with
      | .error rest => .error rest
      | .ok (value, rest) =>
        (lineEnd rest).map fun ((), rest) => (name.map (⟨·, value⟩), rest)

/-- The bindings of a text. Each step reads a character, so the fuel suffices. -/
def readFrom : Nat → List Char → List Binding
  | 0, _ | _ + 1, [] => []
  | fuel + 1, c :: cs =>
    match binding (c :: cs) with
    | .ok (found, rest) => found.toList ++ readFrom fuel rest
    | .error rest => readFrom fuel (dropLine rest)

def read (text : String) : List Binding := readFrom text.length text.toList

/-! ## References -/

/-- A piece of a value. -/
inductive Piece where
  | char (c : Char)
  | reference (name default : String)
  deriving DecidableEq, Repr

/-- A reference after its opening brace, and the text after it. -/
def reference? (cs : List Char) : Option (Piece × List Char) :=
  match cs.span fun c => c ≠ '\x7d' && c ≠ ':' with
  | (name, '\x7d' :: rest) => some (.reference (String.ofList name) "", rest)
  | (name, ':' :: '-' :: rest) =>
    match rest.span (· ≠ '\x7d') with
    | (default, _ :: rest) =>
      some (.reference (String.ofList name) (String.ofList default), rest)
    | _ => none
  | _ => none

/-- The pieces of a value. Each step reads a character, so the fuel suffices. -/
def piecesFrom : Nat → List Char → List Piece
  | 0, _ | _ + 1, [] => []
  | fuel + 1, '$' :: '\x7b' :: cs =>
    match reference? cs with
    | some (piece, rest) => piece :: piecesFrom fuel rest
    | none => .char '$' :: piecesFrom fuel ('\x7b' :: cs)
  | fuel + 1, c :: cs => .char c :: piecesFrom fuel cs

def pieces (value : String) : List Piece := piecesFrom value.length value.toList

/-- The text of a piece. A variable of the environment comes before one bound in the file. -/
def Piece.text (env : Environment) (bound : List (String × Option String)) : Piece → String
  | .char c => c.toString
  | .reference name default =>
    match env.get? name with
    | some v => v
    | none =>
      match bound.lookup name with
      | some v => v.getD ""
      | none => default

def expand (env : Environment) (bound : List (String × Option String)) (value : String) :
    String :=
  String.join ((pieces value).map (·.text env bound))

/-- The names that bindings bind; of two bindings of a name the later one counts. -/
def bound (env : Environment) (bs : List Binding) : List (String × Option String) :=
  bs.foldl (fun acc b => setEntry b.name (b.value.map (expand env acc)) acc) []

/-- The variable that keeps environment files from being read. -/
def disablingVariable : String := "PYTHON_DOTENV_DISABLED"

def isDisabled (env : Environment) : Bool :=
  match env.get? disablingVariable with
  | some word => ["1", "true", "t", "yes", "y"].contains (Text.fold word)
  | none => false

/-- The environment with the variables of a file that it does not have yet. -/
def load (env : Environment) (text : String) : Except Failure Environment :=
  if isDisabled env then .ok env else env.inherit (bound env (read text))

end StackCompiler.EnvironmentFile
