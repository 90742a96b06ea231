import StackCompiler.Encoding.Base64
import StackCompiler.Encoding.Unicode
import StackCompiler.Json.Reader
import StackCompiler.Number.Basic
import StackCompiler.Text.Blank

/-!
# Identity tokens

A token has three parts in base 64 between points: a header, claims and a signature. The identity
provider checks the signature when the token is sent to it as a hint. `Token.verdict` only tells
whether sending it is worth while: whether the token is well formed and not expired.
-/

namespace StackCompiler.Token

/-- For how many seconds an expired token still counts as valid. -/
def leeway : Int := 5

/-! ## Parts -/

/-- The text around the first point. -/
def splitFirst? (cs : List Char) : Option (List Char × List Char) :=
  match cs.span (· ≠ '.') with
  | (before, '.' :: after) => some (before, after)
  | _ => none

/-- The text around the last point. -/
def splitLast? (cs : List Char) : Option (List Char × List Char) :=
  (splitFirst? cs.reverse).map fun (after, before) => (before.reverse, after.reverse)

/-- The members of the JSON object that a part encodes. -/
def object? (part : List Char) : Option (List (String × Json)) := do
  let bytes ← Base64.decode? .urlSafe part
  let text ← Unicode.decode? bytes
  match Json.read text with
  | .ok (.obj ms) => some ms
  | _ => none

/-! ## Headers -/

/-- Extensions that a reader of the token must understand; only `b64` is known. -/
def isKnownExtension (header : List (String × Json)) (name : Json) : Bool :=
  match name with
  | .str s => s == "b64" && (header.lookup s).isSome
  | _ => false

/-- The demands that a header names. -/
def hasValidExtensions (header : List (String × Json)) : Bool :=
  match header.lookup "crit" with
  | none => true
  | some (.arr names) => !names.isEmpty && names.all (isKnownExtension header)
  | some _ => false

def hasValidKeyId (header : List (String × Json)) : Bool :=
  match header.lookup "kid" with
  | none | some (.str _) => true
  | some _ => false

/-- Whether the claims are base 64, which a header may deny. -/
def hasEncodedClaims (header : List (String × Json)) : Bool :=
  match header.lookup "b64" with
  | some (.bool false) => false
  | _ => true

def isValidHeader (header : List (String × Json)) : Bool :=
  hasValidKeyId header && hasValidExtensions header && hasEncodedClaims header

/-- The claims of a token, if it is well formed. -/
def claims? (token : String) : Option (List (String × Json)) := do
  let (signed, signature) ← splitLast? token.toList
  let (header, payload) ← splitFirst? signed
  let header ← object? header
  let claims ← object? payload
  let _ ← Base64.decode? .urlSafe signature
  if isValidHeader header then some claims else none

/-! ## Verdicts -/

inductive Verdict where
  | absent
  | malformed
  | withoutExpiry
  | expired
  | usable
  deriving DecidableEq, Repr

/-- The number that a claim is; truth values count as one and zero. -/
def number? : Json → Option Number
  | .int n => some (.int n)
  | .float x => some (.float x)
  | .bool b => some (.int (if b then 1 else 0))
  | _ => none

/-- When the token expires. -/
def expiry? (claims : List (String × Json)) : Option Number :=
  (claims.lookup "exp").bind number?

/-- The verdict on the claims of a well-formed token at a time in seconds. -/
def verdictOnClaims (now : Number) (claims : List (String × Json)) : Verdict :=
  match expiry? claims with
  | none => .withoutExpiry
  | some expiry => if expiry.isLt (now.subInt leeway) then .expired else .usable

def isBlank (token : String) : Bool := token.toList.all Text.isBlank

def verdict (now : Number) (token : Option String) : Verdict :=
  match token with
  | none => .absent
  | some t =>
    if isBlank t then .absent
    else match claims? t with
      | none => .malformed
      | some claims => verdictOnClaims now claims

def isUsable (now : Number) (token : Option String) : Bool := verdict now token = .usable

end StackCompiler.Token
