import StackCompiler.Stack.Access

/-!
# Deployments

A deployment is a declaration with everything inferred that it leaves out. All generators read it.
-/

namespace StackCompiler

/-- A user of the realm; passwords are no part of a deployment. -/
structure User where
  username : String
  email : String
  firstName : String
  lastName : String
  roles : List String
  deriving DecidableEq, Repr

structure Service where
  id : String
  displayName : String
  host : String
  access : Access
  roles : List String := []
  group : Option String := none
  icon : Option String := none
  description : Option String := none
  deriving DecidableEq, Repr

/-- Whether a sidecar stands in front of the service. -/
def Service.hasSidecar (s : Service) : Bool := s.access == .proxy

/-- Whether the service is guarded in any way. -/
def Service.isGuarded (s : Service) : Bool := s.access != .free

/-- `rolesExplicit` tells whether the roles were declared, and so are the only ones allowed. -/
structure Deployment where
  environment : String
  roles : List String
  rolesExplicit : Bool := false
  users : List User := []
  services : List Service := []
  deriving DecidableEq, Repr

namespace Deployment

/-- The service of an id. -/
def service? (d : Deployment) (id : String) : Option Service := d.services.find? (·.id == id)

end Deployment

/-! ## Reading -/

def User.decode (fs : Decode.Fields) : Decoded User :=
  let text (name : String) : Decoded String := Decode.required fs (.plain name) Decode.text
  User.mk
    <$> text "username"
    <*> text "email"
    <*> text "first_name"
    <*> text "last_name"
    <*> Decode.required fs (.plain "roles") (Decode.list Decode.text)

def Service.decode (fs : Decode.Fields) : Decoded Service :=
  let text (name : String) : Decoded String := Decode.required fs (.plain name) Decode.text
  let note (name : String) : Decoded (Option String) :=
    Decode.maybe fs (.plain name) Decode.text
  Service.mk
    <$> text "service_id"
    <*> text "display_name"
    <*> text "host"
    <*> Decode.required fs (.plain "auth_type") Access.decode
    <*> Decode.optional fs (.plain "required_roles") [] (Decode.list Decode.text)
    <*> note "group"
    <*> note "icon"
    <*> note "description"

def Deployment.decode (fs : Decode.Fields) : Decoded Deployment :=
  Deployment.mk
    <$> Decode.required fs (.plain "environment_name") Decode.text
    <*> Decode.required fs (.plain "roles") (Decode.list Decode.text)
    <*> Decode.optional fs (.plain "roles_explicit") false Decode.bool
    <*> Decode.optional fs (.plain "users") [] (Decode.list (Decode.record User.decode))
    <*> Decode.optional fs (.plain "services") [] (Decode.list (Decode.record Service.decode))

/-! ## Writing -/

def User.toJson (u : User) : Json :=
  .obj [
    ("username", .str u.username),
    ("email", .str u.email),
    ("first_name", .str u.firstName),
    ("last_name", .str u.lastName),
    ("roles", .ofStrs u.roles)]

def Service.toJson (s : Service) : Json :=
  .obj [
    ("service_id", .str s.id),
    ("display_name", .str s.displayName),
    ("host", .str s.host),
    ("auth_type", s.access.toJson),
    ("required_roles", .ofStrs s.roles),
    ("group", .ofStr? s.group),
    ("icon", .ofStr? s.icon),
    ("description", .ofStr? s.description)]

def Deployment.toJson (d : Deployment) : Json :=
  .obj [
    ("environment_name", .str d.environment),
    ("roles", .ofStrs d.roles),
    ("roles_explicit", .bool d.rolesExplicit),
    ("users", .arr (d.users.map User.toJson)),
    ("services", .arr (d.services.map Service.toJson))]

end StackCompiler
