import StackCompiler.Deployment.Basic
import StackCompiler.Stack.Declaration
import StackCompiler.Text.Order

/-!
# Resolution

`Declaration.resolve` infers what a declaration leaves out. Declared fields win; services are put
in the order of their ids, users keep their order, and the roles are the declared ones or else all
that users and services mention, in order and each once.
-/

namespace StackCompiler

/-! ## Names -/

/-- The parts of a text between hyphens. -/
def hyphenParts : List Char → List (List Char)
  | [] => [[]]
  | c :: cs =>
    if c = '-' then [] :: hyphenParts cs
    else match hyphenParts cs with
      | [] => [[c]]
      | part :: parts => (c :: part) :: parts

/-- The first character in upper case and the others in lower case. -/
def capitalize (cs : List Char) : List Char :=
  Text.upperChars (cs.take 1) ++ Text.lowerChars (cs.drop 1)

/-- The words of an id, capitalized. -/
def displayNameOf (id : String) : String :=
  String.ofList (([' '] : List Char).intercalate ((hyphenParts id.toList).map capitalize))

/-- A service is reached under its id unless it names a host. -/
def hostOf (id : String) : String := id

/-! ## Roles -/

/-- The roles that users and services mention, each once. -/
def mentionedRoles (users : List UserEntry) (services : List ServiceEntry) : List String :=
  (users.flatMap (·.roles) ++ services.flatMap (·.roles.getD [])).eraseDups

/-- The roles of the realm. -/
def realmRoles (explicit : Option (List String)) (users : List UserEntry)
    (services : List ServiceEntry) : List String :=
  match explicit with
  | some roles => Text.sortIds roles.eraseDups
  | none => Text.sortIds (mentionedRoles users services)

/-! ## Resolution -/

/-- A text that is given and not empty, or else another one. -/
def orElseText (given : Option String) (other : String) : String :=
  match given with
  | some s => if s.isEmpty then other else s
  | none => other

def ServiceEntry.resolve (id : String) (e : ServiceEntry) : Service :=
  let roles := e.roles.getD []
  { id
    displayName := e.displayName.getD (displayNameOf id)
    host := e.host.getD (hostOf id)
    access := e.access.getD (.ofRoles roles)
    roles
    group := e.group
    icon := e.icon
    description := e.description }

def UserEntry.resolve (environment : String) (u : UserEntry) : User :=
  { username := u.username
    email := orElseText u.email s!"{u.username}@{environment}.local"
    firstName := orElseText u.firstName (displayNameOf u.username)
    lastName := orElseText u.lastName "User"
    roles := u.roles }

def Declaration.resolve (environment : String) (d : Declaration) : Deployment :=
  { environment
    roles := realmRoles d.roles d.users (d.services.map (·.2))
    rolesExplicit := d.roles.isSome
    users := d.users.map (·.resolve environment)
    services := (Text.sortById (·.1) d.services).map fun (id, e) => e.resolve id }

end StackCompiler
