import StackCompiler.Text.Blank

/-!
# Forms of names and addresses

The three forms that texts are checked against: slugs, e-mail addresses and web addresses. All of
them leave one line feed at the end of the text out of account.
-/

namespace StackCompiler.Text

/-- The text without one line feed at its end. -/
def dropFinalNewline (cs : List Char) : List Char :=
  if cs.getLast? = some '\n' then cs.dropLast else cs

/-! ## Slugs -/

def isSlugStart (c : Char) : Bool := 'a' ≤ c && c ≤ 'z'

def isSlugEnd (c : Char) : Bool := isSlugStart c || ('0' ≤ c && c ≤ '9')

def isSlugChar (c : Char) : Bool := isSlugEnd c || c == '-'

/-- Lower case letters, digits and hyphens, with a letter at the start and no hyphen at the end. -/
def isSlugChars (cs : List Char) : Bool :=
  cs.all isSlugChar && (cs.head?.map isSlugStart).getD false &&
    (cs.getLast?.map isSlugEnd).getD false

def isSlug (s : String) : Bool := isSlugChars (dropFinalNewline s.toList)

/-! ## E-mail addresses -/

/-- A character of an address that is not the sign between its two parts. -/
def isMailChar (c : Char) : Bool := !isBlank c && c != '@'

/-- A point with at least one character on each side. -/
def hasInnerPoint (cs : List Char) : Bool := (cs.drop 1).dropLast.contains '.'

/-- A local part, one `@`, and a domain with a point inside it. -/
def isEmail (s : String) : Bool :=
  match (dropFinalNewline s.toList).span isMailChar with
  | (user, '@' :: domain) => !user.isEmpty && domain.all isMailChar && hasInnerPoint domain
  | _ => false

/-! ## Web addresses -/

/-- What follows a beginning. -/
def dropStart? : List Char → List Char → Option (List Char)
  | [], cs => some cs
  | _ :: _, [] => none
  | p :: ps, c :: cs => if p = c then dropStart? ps cs else none

/-- Whether a text occurs in another one. -/
def occursIn (part : List Char) : List Char → Bool
  | [] => part.isEmpty
  | c :: cs => (dropStart? part (c :: cs)).isSome || occursIn part cs

/-- An authority without blanks and, after a slash, a path without blanks. -/
def isAuthorityAndPath (cs : List Char) : Bool :=
  let (authority, path) := cs.span fun c => !isBlank c && c != '/'
  !authority.isEmpty && path.all (!isBlank ·)

def isHttpUrl (s : String) : Bool :=
  let cs := dropFinalNewline s.toList
  ["http://".toList, "https://".toList].any fun scheme =>
    ((dropStart? scheme cs).map isAuthorityAndPath).getD false

end StackCompiler.Text
