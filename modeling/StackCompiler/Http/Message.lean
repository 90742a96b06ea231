import StackCompiler.Encoding.Percent
import StackCompiler.Json.Basic
import StackCompiler.Text.Blank
import StackCompiler.Text.Split

/-!
# HTTP messages

Requests with their queries and cookies, and responses. In a query and among cookies the last value
of a name counts.
-/

namespace StackCompiler.Http

structure Request where
  method : String := "GET"
  path : String
  /-- The query as it is sent, without the question mark. -/
  query : String := ""
  headers : List (String × String) := []
  deriving DecidableEq, Repr

/-- A cookie that a browser is told to forget. -/
structure ExpiredCookie where
  name : String
  domain : Option String := none
  path : String := "/"
  isSecure : Bool := false
  deriving DecidableEq, Repr

/-- The value of the header for a cookie that expires at a date. -/
def ExpiredCookie.text (date : String) (c : ExpiredCookie) : String :=
  let domain := match c.domain with
    | some d => s!"; Domain={d}"
    | none => ""
  c.name ++ "=\"\"" ++ domain ++ s!"; expires={date}; HttpOnly; Max-Age=0; Path={c.path}" ++
    "; SameSite=lax" ++ (if c.isSecure then "; Secure" else "")

structure Response where
  status : Nat
  location : Option String := none
  cookies : List ExpiredCookie := []
  body : Option Json := none
  deriving Repr

/-- The text before the first equals sign and the one after it. -/
def splitEquals? (cs : List Char) : Option (List Char × List Char) :=
  match cs.span (· ≠ '=') with
  | (name, '=' :: value) => some (name, value)
  | _ => none

/-- The value that comes last under a name. -/
def lastValue? (entries : List (String × String)) (name : String) : Option String :=
  entries.reverse.lookup name

/-! ## Queries -/

/-- A name or a value in a query: a plus sign stands for a blank, and escapes are read. -/
def formText (cs : List Char) : String :=
  String.ofList (Percent.decodeChars (cs.map fun c => if c = '+' then ' ' else c))

/-- The parameters of a query; one without an equals sign has an empty value. -/
def parameters (query : String) : List (String × String) :=
  ((Text.pieces '&' query.toList).filter (!·.isEmpty)).map fun piece =>
    let (name, value) := (splitEquals? piece).getD (piece, [])
    (formText name, formText value)

def Request.parameter? (r : Request) (name : String) : Option String :=
  lastValue? (parameters r.query) name

/-! ## Cookies -/

def octalValue? (c : Char) : Option Nat :=
  if '0' ≤ c ∧ c ≤ '7' then some (c.toNat - 48) else none

/-- The character that three octal digits denote, the first of them below four. -/
def octalChar? (a b c : Char) : Option Char := do
  let a ← octalValue? a
  let b ← octalValue? b
  let c ← octalValue? c
  if a < 4 then some (Char.ofNat (a * 64 + b * 8 + c)) else none

/-- The text between quotation marks with its escapes read: three octal digits, or any character,
after a backslash. -/
def unescape : List Char → List Char
  | '\\' :: a :: b :: c :: cs =>
    match octalChar? a b c with
    | some d => d :: unescape cs
    | none =>
      if a = '\n' then '\\' :: a :: unescape (b :: c :: cs) else a :: unescape (b :: c :: cs)
  | '\\' :: a :: cs => if a = '\n' then '\\' :: a :: unescape cs else a :: unescape cs
  | c :: cs => c :: unescape cs
  | [] => []

/-- The value of a cookie, taken out of quotation marks. -/
def cookieValue (cs : List Char) : String :=
  if 2 ≤ cs.length ∧ cs.head? = some '"' ∧ cs.getLast? = some '"' then
    String.ofList (unescape (cs.drop 1).dropLast)
  else String.ofList cs

/-- The cookie in a piece of a header; one without an equals sign has no name. -/
def cookie? (piece : List Char) : Option (String × String) :=
  let (name, value) := (splitEquals? piece).getD ([], piece)
  let name := Text.strip name
  let value := Text.strip value
  if name.isEmpty && value.isEmpty then none else some (String.ofList name, cookieValue value)

/-- The headers of a name, which may be written in upper or lower case. -/
def Request.headersOf (r : Request) (name : String) : List String :=
  (r.headers.filter fun (n, _) => n.toLower == name).map (·.2)

def Request.cookies (r : Request) : List (String × String) :=
  (r.headersOf "cookie").flatMap fun h => (Text.pieces ';' h.toList).filterMap cookie?

def Request.cookie? (r : Request) (name : String) : Option String := lastValue? r.cookies name

/-! ## Redirects -/

/-- What stays as it is in the address of a redirect. -/
def isLocationChar (c : Char) : Bool :=
  Percent.isUnreserved c || ":/%#?=@[]!$&'()*+,;".toList.contains c

def redirect (status : Nat) (url : String) (cookies : List ExpiredCookie := []) : Response where
  status := status
  location := some (Percent.encodeWith isLocationChar url)
  cookies := cookies

/-- An answer that says what is wrong. -/
def problem (status : Nat) (detail : String) : Response where
  status := status
  body := some (.obj [("detail", .str detail)])

end StackCompiler.Http
