import StackCompiler.Text.Digit
import StackCompiler.Text.Split

/-!
# Addresses in brackets

The host of a URL may stand in brackets if it is an address of version 6 or of a future version.
`Address.isBracketable` decides which texts are.
-/

namespace StackCompiler.Url.Address

def isHexDigit (c : Char) : Bool :=
  ('0' ≤ c && c ≤ '9') || ('a' ≤ c && c ≤ 'f') || ('A' ≤ c && c ≤ 'F')

/-- A number below 256 in decimal digits, without zeros at its start. -/
def isOctet (cs : List Char) : Bool :=
  !cs.isEmpty && cs.all Text.isAsciiDigit && cs.length ≤ 3 && (cs = ['0'] || cs.head? ≠ some '0') &&
    cs.foldl (fun n c => 10 * n + (c.toNat - 48)) 0 ≤ 255

/-- Four octets between points. -/
def isVersion4 (cs : List Char) : Bool :=
  let octets := Text.pieces '.' cs
  octets.length = 4 && octets.all isOctet

/-- One to four hexadecimal digits. -/
def isGroup (cs : List Char) : Bool := !cs.isEmpty && cs.length ≤ 4 && cs.all isHexDigit

/-- An address of version 4 at the end stands for two groups. -/
def expandLast (parts : List (List Char)) : Option (List (List Char)) :=
  match parts.getLast? with
  | some last =>
    if last.contains '.' then
      if isVersion4 last then some (parts.dropLast ++ [['0'], ['0']]) else none
    else some parts
  | none => none

/-- Groups before a gap; the text may start with the gap. -/
def isHead (groups : List (List Char)) : Bool := groups = [[]] || groups.all isGroup

/-- Eight groups, or fewer with one gap between two colons for those left out. -/
def hasGroups (parts : List (List Char)) : Bool :=
  let inner := (parts.drop 1).dropLast
  match inner.findIdx? (·.isEmpty) with
  | none => parts.length = 8 && parts.all isGroup
  | some i =>
    let head := parts.take (i + 1)
    let tail := parts.drop (i + 2)
    let count (groups : List (List Char)) : Nat := if groups = [[]] then 0 else groups.length
    isHead head && isHead tail && count head + count tail < 8

/-- An address of version 6, with or without a zone. -/
def isVersion6 (cs : List Char) : Bool :=
  let (address, zone) := cs.span (· ≠ '%')
  let zoneIsValid := match zone with
    | [] => true
    | _ :: name => !name.isEmpty && !name.contains '%'
  let parts := Text.pieces ':' address
  !cs.contains '/' && zoneIsValid && !address.isEmpty && 3 ≤ parts.length &&
    match expandLast parts with
    | some parts => parts.length ≤ 9 && hasGroups parts
    | none => false

/-- An address of a version to come: `v`, hexadecimal digits, a point and more. -/
def isFuture (cs : List Char) : Bool :=
  match cs with
  | 'v' :: rest =>
    match rest.span isHexDigit with
    | (version, '.' :: more) => !version.isEmpty && !more.isEmpty && !more.contains '\n'
    | _ => false
  | _ => false

def isBracketable (cs : List Char) : Bool :=
  if cs.head? = some 'v' then isFuture cs else isVersion6 cs

end StackCompiler.Url.Address
