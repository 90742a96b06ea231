import StackCompiler.Deployment.Policy
import StackCompiler.Realm.Build
import StackCompiler.Secrets.Bundle

/-!
# Sidecar environments

The environment of the sidecar in front of a service: a list of variables in a fixed order, written
one a line.
-/

namespace StackCompiler

/-- The variables of the sidecar of a service. -/
structure SidecarEnvironment where
  id : String
  entries : List (String × String)
  deriving DecidableEq, Repr

namespace SidecarEnvironment

/-- The text of the file that holds the variables. -/
def text (e : SidecarEnvironment) : String :=
  "\n".intercalate (e.entries.map fun (k, v) => s!"{k}={v}") ++ "\n"

/-- What the name of every variable starts with. -/
def nameStart : String := "OAUTH2_PROXY_"

def fullName (name : String) : String :=
  if name.startsWith nameStart then name else nameStart ++ name

/-- The value of a variable, by its full or its short name. -/
def get? (e : SidecarEnvironment) (name : String) : Option String :=
  e.entries.lookup (fullName name)

end SidecarEnvironment

namespace Sidecar

/-- The secrets of a sidecar and the application behind it. -/
structure Context where
  clientSecret : String
  cookieSecret : String
  endpoint : Endpoint
  deriving DecidableEq, Repr

def Context.decode (fs : Decode.Fields) : Decoded Context :=
  Context.mk
    <$> Decode.required fs (.plain "client_secret") Decode.text
    <*> Decode.required fs (.plain "cookie_secret") Decode.text
    <*> Decode.required fs (.plain "upstream") (Decode.record Endpoint.decode)

/-- The sizes of cookie secrets, which are keys of a block cipher. -/
def cookieSecretSizes : List Nat := [16, 24, 32]

def flag (b : Bool) : String := if b then "true" else "false"

/-- The domains that a sign-in may lead back to. -/
def allowedDomains (s : Settings) : String := s!".{s.baseDomain}"

def issuer (s : Settings) : String :=
  if s.usesInternalIssuer then s.internalIssuerUrl else s.issuerUrl

/-- Cookies belong to one host unless a shared domain is set. -/
def cookieDomain (s : Settings) : List (String × String) :=
  match s.cookieDomain with
  | some domain => if domain.isEmpty then [] else [("COOKIE_DOMAINS", domain)]
  | none => []

/-- The variables by their short names. -/
def entries (s : Settings) (p : Policy) (context : Context) : List (String × String) :=
  let url := s.urlOf (some p.host)
  [("PROVIDER", "oidc"),
   ("OIDC_ISSUER_URL", issuer s),
   ("CLIENT_ID", sidecarClientId p.id),
   ("CLIENT_SECRET", context.clientSecret),
   -- tokens never name the internal issuer
   ("INSECURE_OIDC_SKIP_ISSUER_VERIFICATION", flag s.usesInternalIssuer),
   ("SCOPE", "openid email profile"),
   ("COOKIE_SECRET", context.cookieSecret),
   ("COOKIE_NAME", s!"_oauth2_proxy_{p.id}"),
   ("COOKIE_SAMESITE", "lax"),
   ("COOKIE_SECURE", flag s.useHttps),
   ("UPSTREAMS", s!"http://{context.endpoint.address}:{context.endpoint.port}/"),
   ("REDIRECT_URL", s!"{url}/oauth2/callback"),
   ("WHITELIST_DOMAINS", allowedDomains s),
   ("HTTP_ADDRESS", s!"0.0.0.0:{sidecarPort}"),
   ("EMAIL_DOMAINS", "*"),
   ("SKIP_PROVIDER_BUTTON", "true"),
   ("PASS_ACCESS_TOKEN", "true"),
   ("PASS_AUTHORIZATION_HEADER", "true"),
   ("SET_XAUTHREQUEST", "true"),
   ("SILENCE_PING_LOGGING", "true"),
   ("OIDC_GROUPS_CLAIM", "groups"),
   ("ALLOWED_GROUPS", Policy.groups p.roles)] ++ cookieDomain s

def build (s : Settings) (p : Policy) (context : Context) : Except Failure SidecarEnvironment :=
  if context.clientSecret.isEmpty then .error (.missingSecret (.client p.id))
  else if !cookieSecretSizes.contains (Utf8.encode context.cookieSecret).length then
    .error (.missingSecret (.cookieLength p.id))
  else .ok ⟨p.id, (entries s p context).map fun (k, v) =>
    (SidecarEnvironment.nameStart ++ k, v)⟩

/-- What the sidecar of a policy is built from: secrets that are not there are empty. -/
def contextOf (s : Settings) (catalog : Catalog) (secrets : Secrets) (p : Policy) :
    Except Failure Context :=
  match catalog.port? p.id with
  | some port => .ok {
      clientSecret := (secrets.clientSecrets.lookup p.id).getD ""
      cookieSecret := (secrets.cookieSecrets.lookup p.id).getD ""
      endpoint := ⟨s.container p.id, port⟩ }
  | none => .error (.notInCatalog p.id)

/-- The environments of all sidecars of a deployment, in the order of ids. -/
def buildAll (s : Settings) (catalog : Catalog) (d : Deployment) (secrets : Secrets) :
    Except Failure (List SidecarEnvironment) :=
  d.policies.mapM fun p => do build s p (← contextOf s catalog secrets p)

end Sidecar
end StackCompiler
