import StackCompiler.Failure
import StackCompiler.Text.Case
import StackCompiler.Url.Address

/-!
# The host of a URL

`Url.host?` finds the host that a URL names: what stands between the user and the port, in lower
case. Brackets that do not enclose an address, and characters that would turn into separators once
they are normalised, make a URL malformed.
-/

namespace StackCompiler.Url

/-! ## Parts -/

def isControlOrSpace (c : Char) : Bool := c.toNat ≤ 32

/-- Characters that are taken out wherever they stand. -/
def isBreak (c : Char) : Bool := c = '\t' || c = '\n' || c = '\r'

/-- The text of a URL without the characters that have no part in it. -/
def clean (s : String) : List Char :=
  (s.toList.dropWhile isControlOrSpace).filter (!isBreak ·)

def isSchemeChar (c : Char) : Bool := c.isAlphanum || c = '+' || c = '-' || c = '.'

/-- The text after the scheme, if there is one. -/
def afterScheme (cs : List Char) : List Char :=
  match cs.span (· ≠ ':') with
  | (c :: scheme, ':' :: rest) =>
    if c.isAlpha && scheme.all isSchemeChar then rest else cs
  | _ => cs

def endsAuthority (c : Char) : Bool := c = '/' || c = '?' || c = '#'

/-- The authority: the user, the host and the port. -/
def authority (cs : List Char) : List Char :=
  match afterScheme cs with
  | '/' :: '/' :: rest => rest.takeWhile (!endsAuthority ·)
  | _ => []

/-- The text after the last sign that ends the user. -/
def withoutUser (cs : List Char) : List Char := (cs.reverse.takeWhile (· ≠ '@')).reverse

/-! ## Malformed authorities -/

def isUnbalanced (cs : List Char) : Bool := cs.contains '[' != cs.contains ']'

/-- Brackets enclose the whole host, and it is an address. -/
def hasValidBrackets (cs : List Char) : Bool :=
  match (withoutUser cs).span (· ≠ '[') with
  | (before, '[' :: rest) =>
    let (inner, after) := rest.span (· ≠ ']')
    let port := after.drop 1
    before.isEmpty && (port.isEmpty || port.head? = some ':') && Address.isBracketable inner
  | (all, _) => Address.isBracketable (all.takeWhile (· ≠ ':'))

/-- The characters whose compatibility forms hold a separator. -/
def separatorForms : List Nat :=
  [0x2047, 0x2048, 0x2049, 0x2100, 0x2101, 0x2105, 0x2106, 0x2A74, 0xFE13, 0xFE16, 0xFE55, 0xFE56,
   0xFE5F, 0xFE6B, 0xFF03, 0xFF0F, 0xFF1A, 0xFF1F, 0xFF20]

def isMalformed (cs : List Char) : Bool :=
  isUnbalanced cs || (cs.contains '[' && !hasValidBrackets cs) ||
    cs.any (separatorForms.contains ·.toNat)

/-! ## The host -/

/-- The host of an authority, brackets and port left out. -/
def hostText (cs : List Char) : List Char :=
  match (withoutUser cs).span (· ≠ '[') with
  | (_, '[' :: rest) => rest.takeWhile (· ≠ ']')
  | (all, _) => all.takeWhile (· ≠ ':')

/-- The lower case of a host; the zone of an address keeps its case. -/
def lowerHost (cs : List Char) : String :=
  let (host, zone) := cs.span (· ≠ '%')
  Text.lower (String.ofList host) ++ String.ofList zone

def host? (s : String) : Except Failure (Option String) :=
  let cs := authority (clean s)
  if isMalformed cs then .error .badValue
  else
    let host := hostText cs
    .ok (if host.isEmpty then none else some (lowerHost host))

end StackCompiler.Url
