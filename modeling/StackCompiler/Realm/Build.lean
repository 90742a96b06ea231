import StackCompiler.Deployment.Policy
import StackCompiler.Realm.Document

/-!
# Building realms

A realm has one client for the portal and one for each sidecar, the roles of the deployment, and
its users with their credentials. `Realm.build` fails if a secret is missing.
-/

namespace StackCompiler

/-- The id of the portal's client. -/
def portalClientId : String := "portal"

/-- The id of the client of a service's sidecar. -/
def sidecarClientId (id : String) : String := s!"oauth2-proxy-{id}"

namespace Realm

/-- The secrets that a realm is built with. -/
structure Context where
  portalClientSecret : String
  clientSecrets : List (String × String) := []
  credentials : List (String × Credential) := []
  deriving DecidableEq, Repr

def Context.decode (fs : Decode.Fields) : Decoded Context :=
  Context.mk
    <$> Decode.required fs (.plain "portal_client_secret") Decode.text
    <*> Decode.optional fs (.plain "client_secrets") [] (Decode.mapping Decode.text)
    <*> Decode.optional fs (.plain "user_credentials") []
      (Decode.mapping (Decode.record Credential.decode))

/-- The client secret of a service; an empty one counts as missing. -/
def Context.clientSecret? (c : Context) (id : String) : Option String :=
  (c.clientSecrets.lookup id).filter (!·.isEmpty)

/-! ## Clients -/

/-- The roles of a user as a claim of all tokens. -/
def roleMapper (name claim : String) : Mapper where
  name
  mapper := "oidc-usermodel-realm-role-mapper"
  config := [
    ("multivalued", "true"),
    ("claim.name", claim),
    ("jsonType.label", "String"),
    ("id.token.claim", "true"),
    ("access.token.claim", "true"),
    ("userinfo.token.claim", "true")]

/-- The portal as the audience of access tokens. -/
def audienceMapper : Mapper where
  name := "portal-audience"
  mapper := "oidc-audience-mapper"
  config := [
    ("included.client.audience", portalClientId),
    ("id.token.claim", "false"),
    ("access.token.claim", "true")]

/-- Where a sign-out may lead back to; the two places are separated by a double hash. -/
def logoutRedirects (portalUrl : String) : String :=
  s!"{portalUrl}/auth/logout/complete##{portalUrl}/auth/logout/"

def portalClient (s : Settings) (secret : String) : Client where
  id := portalClientId
  name := "Portal"
  secret
  redirectUris := [s!"{s.portalUrl}/auth/callback"]
  webOrigins := [s.portalUrl]
  attributes := [("post.logout.redirect.uris", logoutRedirects s.portalUrl)]
  mappers := [audienceMapper, roleMapper "realm-roles" "realm_access.roles"]

/-- The client of a sidecar, whose roles are the groups of its tokens. -/
def sidecarClient (s : Settings) (p : Policy) (secret : String) : Client :=
  let url := s.urlOf (some p.host)
  { id := sidecarClientId p.id
    name := s!"OAuth2 Proxy - {p.id}"
    secret
    redirectUris := [s!"{url}/oauth2/callback"]
    webOrigins := [url]
    attributes := [("post.logout.redirect.uris", url)]
    mappers := [roleMapper "realm-roles-mapper" "groups"] }

/-- The secrets of all policies, or the ids of those without one. -/
def clientSecrets (context : Context) (policies : List Policy) :
    Except Failure (List (Policy × String)) :=
  match (policies.filter fun p => (context.clientSecret? p.id).isNone).map (·.id) with
  | [] => .ok (policies.filterMap fun p => (context.clientSecret? p.id).map (p, ·))
  | missing => .error (.missingSecret (.clients missing))

/-- All clients, in the order of their ids. -/
def clients (s : Settings) (portalSecret : String) (policies : List (Policy × String)) :
    List Client :=
  Text.sortById (·.id)
    (portalClient s portalSecret :: policies.map fun (p, secret) => sidecarClient s p secret)

/-! ## Roles and users -/

def roleDescription (role : String) : String :=
  match role with
  | "admin" => "Administrator role - full access to all protected services"
  | "dev" => "Developer role - access to standard protected services"
  | _ => s!"Access role: {role}"

/-- Names with those of a list that are not among them added in order. -/
def addMissing (names : List String) (more : List String) : List String :=
  more.foldl (fun names n => if names.contains n then names else names ++ [n]) names

/-- The roles of the deployment, and after them those that only policies name. -/
def roles (d : Deployment) (policies : List Policy) : List Role :=
  (addMissing d.roles (policies.flatMap (·.roles))).map fun n => ⟨n, roleDescription n⟩

/-- A user with a credential; everyone has the default roles of the realm. -/
def account (s : Settings) (context : Context) (u : User) : Except Failure Account :=
  match context.credentials.lookup u.username with
  | none => .error (.missingSecret (.credential u.username))
  | some credential => .ok {
      username := u.username
      email := u.email
      firstName := u.firstName
      lastName := u.lastName
      credentials := [credential]
      realmRoles := s!"default-roles-{s.realm}" :: u.roles }

/-! ## The document -/

def build (s : Settings) (d : Deployment) (context : Context) : Except Failure Document := do
  if context.portalClientSecret.isEmpty then throw (.missingSecret .portalClient)
  let policies ← clientSecrets context d.policies
  let users ← d.users.mapM (account s context)
  return {
    realm := s.realm
    sslRequired := if s.useHttps then "external" else "none"
    roles := roles d d.policies
    clients := clients s context.portalClientSecret policies
    users }

end Realm
end StackCompiler
