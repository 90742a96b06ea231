import StackCompiler.Yaml.Builder

/-!
# Reading YAML

`Yaml.read` reads the only document of a text as data. A text that holds an unreadable character is
no document; but a fault that is found before the text is read as far as that character comes first.
-/

namespace StackCompiler.Yaml

/-- A character that a document may hold. -/
def isReadable (c : Char) : Bool :=
  let n := c.toNat
  c == '\t' || c == '\n' || (0x20 ≤ n && n ≤ 0x7E) || n == 0x85 || (0xA0 ≤ n && n ≤ 0xFFFD) ||
    0x10000 ≤ n

/-- The only document of a text without unreadable characters. -/
def compose (cs : List Char) : Except Fault (Option Document) := Document.ofTokens? (tokens cs)

/-- A text is read in blocks of this many characters, two of them at the start. -/
def blockLength : Nat := 4096

/-- The fault of a text whose first unreadable character is at an index. -/
def unreadableFault (cs : List Char) (index : Nat) : Fault :=
  if index < 2 * blockLength then .malformed
  else match compose (cs.take (index / blockLength * blockLength)) with
    | .error f => f
    | .ok _ => .malformed

/-- The data of the only document of a text; a text without a document is null. -/
def read (text : String) : Except Fault Data := do
  let cs := Text.plainLineEnds text.toList
  match cs.findIdx? (!isReadable ·) with
  | some index => throw (unreadableFault cs index)
  | none =>
    match ← compose cs with
    | none => return .null
    | some d => d.data

end StackCompiler.Yaml
