import StackCompiler.Text.Printable

/-!
# Quoted texts in messages

A text is shown between apostrophes, or between quotation marks where it holds an apostrophe and no
quotation mark. The enclosing mark, the backslash, the line ends and the tab are escaped, as is
each character that is not printable.
-/

namespace StackCompiler.Text

def hexDigits (width n : Nat) : List Char :=
  let ds := Nat.toDigits 16 n
  List.replicate (width - ds.length) '0' ++ ds

/-- A character that is not printable, by its code point. -/
def codeEscape (c : Char) : List Char :=
  if c.toNat < 0x100 then '\\' :: 'x' :: hexDigits 2 c.toNat
  else if c.toNat < 0x10000 then '\\' :: 'u' :: hexDigits 4 c.toNat
  else '\\' :: 'U' :: hexDigits 8 c.toNat

def quotedChar (mark c : Char) : List Char :=
  if c = mark ∨ c = '\\' then ['\\', c]
  else if c = '\n' then ['\\', 'n']
  else if c = '\r' then ['\\', 'r']
  else if c = '\t' then ['\\', 't']
  else if isPrintable c then [c]
  else codeEscape c

def quotationMark (cs : List Char) : Char :=
  if cs.contains '\'' && !cs.contains '"' then '"' else '\''

def quotedChars (cs : List Char) : List Char :=
  let mark := quotationMark cs
  mark :: cs.flatMap (quotedChar mark) ++ [mark]

def quoted (s : String) : String := String.ofList (quotedChars s.toList)

end StackCompiler.Text
