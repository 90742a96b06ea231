import StackCompiler.Json.Basic

/-!
# Writing JSON

One printer serves the three forms in use: `spaced` on one line with blanks after separators,
`compact` without blanks, and `indented` with one item a line. All of them are ASCII; other
characters are written as `\u` escapes of their UTF-16 units.
-/

namespace StackCompiler.Json

/-- The choices of a form: what separates items, what stands between a name and its value, and how
far each level is indented, if items have lines of their own. -/
structure Layout where
  comma : List Char
  colon : List Char
  step : Option Nat

def Layout.spaced : Layout := ⟨[',', ' '], [':', ' '], none⟩

def Layout.compact : Layout := ⟨[','], [':'], none⟩

/-- Two blanks a level. -/
def Layout.indented : Layout := ⟨[','], [':', ' '], some 2⟩

namespace Printer

def hexDigit (n : Nat) : Char := Char.ofNat (if n < 10 then 48 + n else 87 + n)

/-- The escape of a UTF-16 unit. -/
def unitEscape (n : Nat) : List Char :=
  ['\\', 'u', hexDigit (n / 4096 % 16), hexDigit (n / 256 % 16), hexDigit (n / 16 % 16),
    hexDigit (n % 16)]

/-- A character inside quotes. -/
def escape (c : Char) : List Char :=
  if c = '"' then ['\\', '"']
  else if c = '\\' then ['\\', '\\']
  else if c = '\n' then ['\\', 'n']
  else if c = '\r' then ['\\', 'r']
  else if c = '\t' then ['\\', 't']
  else if c = '\x08' then ['\\', 'b']
  else if c = '\x0c' then ['\\', 'f']
  else if 32 ≤ c.toNat ∧ c.toNat < 127 then [c]
  else if c.toNat < 0x10000 then unitEscape c.toNat
  else
    let n := c.toNat - 0x10000
    unitEscape (0xD800 + n / 1024) ++ unitEscape (0xDC00 + n % 1024)

def quoted (s : String) : List Char := '"' :: s.toList.flatMap escape ++ ['"']

/-- The start of a line at a depth, in a form that has lines. -/
def newline (layout : Layout) (depth : Nat) : List Char :=
  match layout.step with
  | none => []
  | some k => '\n' :: List.replicate (k * depth) ' '

mutual

def value (layout : Layout) (depth : Nat) : Json → List Char
  | null => "null".toList
  | bool true => "true".toList
  | bool false => "false".toList
  | int n => (toString n).toList
  | float x => (x.textWith "NaN" "Infinity").toList
  | str s => quoted s
  | arr [] => ['[', ']']
  | arr (v :: vs) =>
    '[' :: newline layout (depth + 1) ++ value layout (depth + 1) v ++
      items layout (depth + 1) vs ++ newline layout depth ++ [']']
  | obj [] => ['\x7b', '\x7d']
  | obj ((k, v) :: ms) =>
    '\x7b' :: newline layout (depth + 1) ++ quoted k ++ layout.colon ++
      value layout (depth + 1) v ++ members layout (depth + 1) ms ++
      newline layout depth ++ ['\x7d']

/-- The items after the first, each with its separator. -/
def items (layout : Layout) (depth : Nat) : List Json → List Char
  | [] => []
  | v :: vs =>
    layout.comma ++ newline layout depth ++ value layout depth v ++ items layout depth vs

/-- The members after the first, each with its separator. -/
def members (layout : Layout) (depth : Nat) : List (String × Json) → List Char
  | [] => []
  | (k, v) :: ms =>
    layout.comma ++ newline layout depth ++ quoted k ++ layout.colon ++ value layout depth v ++
      members layout depth ms

end

end Printer

def write (layout : Layout) (v : Json) : String := String.ofList (Printer.value layout 0 v)

end StackCompiler.Json
