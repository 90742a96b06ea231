import StackCompiler.Stack.Access

/-!
# Declarations

What a stack file declares apart from its settings: roles, users and services, before anything is
inferred. A role list may be written as one role; a service may be written without a body.
-/

namespace StackCompiler

/-! ## Role lists -/

/-- The items of a role list; a text is one role, and what has no items cannot be one. -/
def roleItems : Data → Decoded (List Data)
  | .scalar .null => .ok []
  | .scalar (.str s) => .ok [.str s]
  | .scalar (.bytes bs) => .ok (bs.map fun b => .int b.toNat)
  | .scalar _ => .notIterable
  | .list items => .ok items
  | .map entries => .ok (entries.map fun (k, _) => .scalar k)
  | .set members => .ok (members.map .scalar)

def decodeRoles (d : Data) : Decoded (List String) :=
  (roleItems d).andThen (Decode.items Decode.text)

/-! ## Services -/

/-- A declared service; what is absent is inferred. -/
structure ServiceEntry where
  displayName : Option String := none
  host : Option String := none
  roles : Option (List String) := none
  access : Option Access := none
  group : Option String := none
  icon : Option String := none
  description : Option String := none
  deriving DecidableEq, Repr

namespace ServiceEntry

def fieldNames : List Decode.FieldName :=
  [⟨"displayName", "display_name"⟩, .plain "host", ⟨"requiredRoles", "required_roles"⟩,
   ⟨"authType", "auth_type"⟩, .plain "group", .plain "icon", .plain "description"]

def decode (fs : Decode.Fields) : Decoded ServiceEntry :=
  let note (name : Decode.FieldName) : Decoded (Option String) := Decode.maybe fs name Decode.text
  Decode.closed fs fieldNames <|
    ServiceEntry.mk
      <$> note ⟨"displayName", "display_name"⟩
      <*> note (.plain "host")
      <*> Decode.maybe fs ⟨"requiredRoles", "required_roles"⟩ decodeRoles
      <*> Decode.maybe fs ⟨"authType", "auth_type"⟩ Access.decode
      <*> note (.plain "group")
      <*> note (.plain "icon")
      <*> note (.plain "description")

def toJson (e : ServiceEntry) : Json :=
  .obj [
    ("displayName", .ofStr? e.displayName),
    ("host", .ofStr? e.host),
    ("requiredRoles", .ofOption .ofStrs e.roles),
    ("authType", .ofOption Access.toJson e.access),
    ("group", .ofStr? e.group),
    ("icon", .ofStr? e.icon),
    ("description", .ofStr? e.description)]

end ServiceEntry

/-! ## Users -/

/-- A declared user, with the password as it is written. -/
structure UserEntry where
  username : String
  password : Option String := none
  email : Option String := none
  firstName : Option String := none
  lastName : Option String := none
  roles : List String := []
  deriving DecidableEq, Repr

namespace UserEntry

def fieldNames : List Decode.FieldName :=
  [.plain "username", .plain "password", .plain "email", ⟨"firstName", "first_name"⟩,
   ⟨"lastName", "last_name"⟩, .plain "roles"]

def decode (fs : Decode.Fields) : Decoded UserEntry :=
  let note (name : Decode.FieldName) : Decoded (Option String) := Decode.maybe fs name Decode.text
  Decode.closed fs fieldNames <|
    UserEntry.mk
      <$> Decode.required fs (.plain "username") Decode.text
      <*> note (.plain "password")
      <*> note (.plain "email")
      <*> note ⟨"firstName", "first_name"⟩
      <*> note ⟨"lastName", "last_name"⟩
      <*> Decode.optional fs (.plain "roles") [] decodeRoles

def toJson (u : UserEntry) : Json :=
  .obj [
    ("username", .str u.username),
    ("password", .ofStr? u.password),
    ("email", .ofStr? u.email),
    ("firstName", .ofStr? u.firstName),
    ("lastName", .ofStr? u.lastName),
    ("roles", .ofStrs u.roles)]

end UserEntry

/-! ## Declarations -/

structure Declaration where
  roles : Option (List String) := none
  users : List UserEntry := []
  services : List (String × ServiceEntry) := []
  deriving DecidableEq, Repr

namespace Declaration

/-- A vacant list of users is empty. -/
def decodeUsers (d : Data) : Decoded (List UserEntry) :=
  if d.isVacant then .ok [] else Decode.list (Decode.record UserEntry.decode) d

/-- A service without a body takes every default. -/
def fillBody (d : Data) : Data := if d.isVacant then .map [] else d

def decodeServices (d : Data) : Decoded (List (String × ServiceEntry)) :=
  if d.isVacant then .ok []
  else Decode.mapping (fun body => Decode.record ServiceEntry.decode (fillBody body)) d

/-- The first username that a user before it has. -/
def repeatedUsername? : List String → List UserEntry → Option String
  | _, [] => none
  | seen, u :: us =>
    if seen.contains u.username then some u.username
    else repeatedUsername? (u.username :: seen) us

def decode (fs : Decode.Fields) : Decoded Declaration :=
  let fields := Declaration.mk
    <$> Decode.maybe fs ⟨"roles", "explicit_roles"⟩ decodeRoles
    <*> Decode.optional fs (.plain "users") [] decodeUsers
    <*> Decode.optional fs (.plain "services") [] decodeServices
  fields.andThen fun d =>
    match repeatedUsername? [] d.users with
    | some name => .fail (.refused s!"Duplicate username: {name}")
    | none => .ok d

/-- The password of each user. -/
def passwords (d : Declaration) : List (String × Option String) :=
  d.users.map fun u => (u.username, u.password)

end Declaration
end StackCompiler
