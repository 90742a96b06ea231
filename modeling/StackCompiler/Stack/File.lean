import StackCompiler.Failure
import StackCompiler.Stack.Declaration

/-!
# Stack files

A stack file holds settings, credentials and a declaration. `StackFile.ofData` reads one from
untyped data; users may stand beside the credentials or among them, where they count first.
-/

namespace StackCompiler

/-- The account of the identity provider's administrator. -/
structure Credentials where
  adminUsername : String := "admin"
  adminPassword : Option String := none
  deriving DecidableEq, Repr

namespace Credentials

def decode (fs : Decode.Fields) : Decoded Credentials :=
  Credentials.mk
    <$> Decode.optional fs ⟨"keycloakAdminUsername", "keycloak_admin_username"⟩ "admin" Decode.text
    <*> Decode.maybe fs ⟨"keycloakAdminPassword", "keycloak_admin_password"⟩ Decode.text

def toJson (c : Credentials) : Json :=
  .obj [
    ("keycloakAdminUsername", .str c.adminUsername),
    ("keycloakAdminPassword", .ofStr? c.adminPassword)]

end Credentials

structure StackFile where
  settings : Settings
  credentials : Credentials := {}
  declaration : Declaration
  deriving DecidableEq, Repr

namespace StackFile

/-- Entries whose keys are all texts, so that they can name fields. -/
def named (fs : Decode.Fields) : Except Failure Decode.Fields :=
  if fs.all fun (k, _) => match k with | .str _ => true | _ => false then .ok fs
  else .error .wrongType

/-- The entries of a section; one that is vacant has none. -/
def sectionEntries (source name : String) (d : Data) : Except Failure Decode.Fields :=
  match d.get? name with
  | none => .ok []
  | some (.map fs) => .ok fs
  | some other => if other.isVacant then .ok [] else .error (.sectionNotMapping source name)

/-- The users among the credentials, or else those beside them. -/
def userData (credentials : Decode.Fields) (d : Data) : Data :=
  match credentials.lookup (.str "users") with
  | some users => if users.isVacant then (d.get? "users").getD .null else users
  | none => (d.get? "users").getD .null

/-- The fields of the declaration. -/
def declarationEntries (credentials : Decode.Fields) (d : Data) : Decode.Fields :=
  [(.str "roles", (d.get? "roles").getD .null),
   (.str "users", userData credentials d),
   (.str "services", (d.get? "services").getD .null)]

def ofData (source : String) (d : Data) : Except Failure StackFile := do
  match d with
  | .map _ => pure ()
  | _ => throw (.notMapping source d.kind)
  let settings ← sectionEntries source "stack" d
  let credentials ← sectionEntries source "credentials" d
  let rejected := Failure.stackFileRejected source
  let own := credentials.filter fun (k, _) => !(k == .str "users")
  return {
    settings := ← (Settings.decode (← named settings)).toExcept rejected
    credentials := ← (Credentials.decode (← named own)).toExcept rejected
    declaration :=
      ← (Declaration.decode (declarationEntries credentials d)).toExcept rejected }

/-- The source that messages name where data comes from no file. -/
def memorySource : String := "<memory>"

end StackFile
end StackCompiler
