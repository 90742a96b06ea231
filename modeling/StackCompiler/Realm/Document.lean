import StackCompiler.Secrets.Credential

/-!
# Realm documents

The import document of an identity provider's realm: its clients, roles and users.
-/

namespace StackCompiler.Realm

/-- How a claim of a token is made. -/
structure Mapper where
  name : String
  mapper : String
  config : List (String × String)
  protocol : String := "openid-connect"
  consentRequired : Bool := false
  deriving DecidableEq, Repr

structure Client where
  id : String
  name : String
  secret : String
  redirectUris : List String
  webOrigins : List String
  attributes : List (String × String)
  mappers : List Mapper
  deriving DecidableEq, Repr

structure Role where
  name : String
  description : String
  deriving DecidableEq, Repr

structure Account where
  username : String
  email : String
  firstName : String
  lastName : String
  credentials : List Credential
  realmRoles : List String
  deriving DecidableEq, Repr

structure Document where
  realm : String
  sslRequired : String
  roles : List Role
  clients : List Client
  users : List Account
  deriving DecidableEq, Repr

/-- The client of an id. -/
def Document.client? (d : Document) (id : String) : Option Client := d.clients.find? (·.id == id)

/-! ## The written form -/

def textMembers (entries : List (String × String)) : Json :=
  .obj (entries.map fun (k, v) => (k, .str v))

def Mapper.toJson (m : Mapper) : Json :=
  .obj [
    ("name", .str m.name),
    ("protocol", .str m.protocol),
    ("protocolMapper", .str m.mapper),
    ("consentRequired", .bool m.consentRequired),
    ("config", textMembers m.config)]

def Client.toJson (c : Client) : Json :=
  .obj [
    ("clientId", .str c.id),
    ("name", .str c.name),
    ("enabled", .bool true),
    ("clientAuthenticatorType", .str "client-secret"),
    ("secret", .str c.secret),
    ("redirectUris", .ofStrs c.redirectUris),
    ("webOrigins", .ofStrs c.webOrigins),
    ("attributes", textMembers c.attributes),
    ("publicClient", .bool false),
    ("protocol", .str "openid-connect"),
    ("standardFlowEnabled", .bool true),
    ("directAccessGrantsEnabled", .bool false),
    ("protocolMappers", .arr (c.mappers.map Mapper.toJson))]

def Role.toJson (r : Role) : Json :=
  .obj [("name", .str r.name), ("description", .str r.description)]

def Account.toJson (a : Account) : Json :=
  .obj [
    ("username", .str a.username),
    ("enabled", .bool true),
    ("emailVerified", .bool true),
    ("email", .str a.email),
    ("firstName", .str a.firstName),
    ("lastName", .str a.lastName),
    ("credentials", .arr (a.credentials.map Credential.toJson)),
    ("realmRoles", .ofStrs a.realmRoles)]

def Document.toJson (d : Document) : Json :=
  .obj [
    ("realm", .str d.realm),
    ("enabled", .bool true),
    ("sslRequired", .str d.sslRequired),
    ("registrationAllowed", .bool false),
    ("loginWithEmailAllowed", .bool true),
    ("duplicateEmailsAllowed", .bool false),
    ("resetPasswordAllowed", .bool true),
    ("editUsernameAllowed", .bool false),
    ("bruteForceProtected", .bool true),
    ("roles", .obj [("realm", .arr (d.roles.map Role.toJson))]),
    ("clients", .arr (d.clients.map Client.toJson)),
    ("users", .arr (d.users.map Account.toJson))]

/-- The text of the document, one item a line. -/
def Document.text (d : Document) : String := d.toJson.write .indented

end StackCompiler.Realm
