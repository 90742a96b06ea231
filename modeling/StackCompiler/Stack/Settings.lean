import StackCompiler.Data.Decode
import StackCompiler.Text.Pattern

/-!
# Stack settings

The settings that hold for a whole deployment, how they are read, and the addresses that follow
from them.
-/

namespace StackCompiler

/-! ## Fixed names -/

/-- The hosts of the core services; no other service may claim them. -/
def portalHost : String := "portal"

def keycloakHost : String := "keycloak"

def reservedHosts : List String := [portalHost, keycloakHost]

def portalPort : Nat := 3000

def keycloakPort : Nat := 8080

/-- The environment in which users may be declared. -/
def usersEnvironment : String := "local"

def productionEnvironment : String := "prod"

/-- The environment whose sidecars find the issuer on the internal network. -/
def internalIssuerEnvironment : String := "dev"

/-- How the portal receives its descriptor. -/
inductive Injection where
  | file
  | json
  deriving DecidableEq, Repr

def Injection.word : Injection → String
  | file => "file"
  | json => "json"

/-- Over which network sidecars discover the issuer. -/
inductive IssuerMode where
  | internal
  | browser
  deriving DecidableEq, Repr

def IssuerMode.word : IssuerMode → String
  | internal => "internal"
  | browser => "public"

structure Settings where
  deploymentId : String
  environment : String
  baseDomain : String := "localhost"
  useHttps : Bool := false
  realm : String
  realmDevMode : Bool := false
  acmeEmail : Option String := none
  acmeStaging : Bool := false
  injection : Injection := .file
  projectName : String := "stackgen"
  cookieDomain : Option String := none
  issuerMode : Option IssuerMode := none
  deriving DecidableEq, Repr

namespace Settings

/-! ## Reading -/

/-- A text that must be a slug. -/
def slug (d : Data) : Decoded String :=
  (Decode.text d).andThen fun s =>
    if Text.isSlug s then .ok s else .fail (.refused s!"'{s}' must be a lowercase slug")

def injections : List (String × Injection) := [.file, .json].map fun i => (i.word, i)

def issuerModes : List (String × IssuerMode) := [.internal, .browser].map fun m => (m.word, m)

/-- The fields without regard to how they fit together. -/
def decodeFields (fs : Decode.Fields) : Decoded Settings :=
  let flag (written own : String) : Decoded Bool :=
    Decode.optional fs ⟨written, own⟩ false Decode.bool
  let note (written own : String) : Decoded (Option String) :=
    Decode.maybe fs ⟨written, own⟩ Decode.text
  Settings.mk
    <$> Decode.required fs ⟨"deploymentId", "deployment_id"⟩ slug
    <*> Decode.required fs (.plain "environment") slug
    <*> Decode.optional fs ⟨"baseDomain", "base_domain"⟩ "localhost" Decode.text
    <*> flag "useHttps" "use_https"
    <*> Decode.required fs ⟨"keycloakRealm", "realm"⟩ Decode.text
    <*> flag "keycloakDevMode" "keycloak_dev_mode"
    <*> note "acmeEmail" "acme_email"
    <*> flag "acmeStaging" "acme_staging"
    <*> Decode.optional fs ⟨"descriptorInjection", "descriptor_injection"⟩ .file
      (Decode.literal injections)
    <*> Decode.optional fs ⟨"projectName", "project_name"⟩ "stackgen" Decode.text
    <*> note "cookieDomain" "cookie_domain"
    <*> Decode.maybe fs ⟨"issuerMode", "issuer_mode"⟩ (Decode.literal issuerModes)

/-- Certificates need an address to be issued to. -/
def certifiable (s : Settings) : Bool := !s.useHttps || !(s.acmeEmail.getD "").isEmpty

def decode (fs : Decode.Fields) : Decoded Settings :=
  (decodeFields fs).andThen fun s =>
    if s.certifiable then .ok s
    else .fail (.refused "acmeEmail is required when useHttps is enabled")

def toJson (s : Settings) : Json :=
  .obj [
    ("deploymentId", .str s.deploymentId),
    ("environment", .str s.environment),
    ("baseDomain", .str s.baseDomain),
    ("useHttps", .bool s.useHttps),
    ("keycloakRealm", .str s.realm),
    ("keycloakDevMode", .bool s.realmDevMode),
    ("acmeEmail", .ofStr? s.acmeEmail),
    ("acmeStaging", .bool s.acmeStaging),
    ("descriptorInjection", .str s.injection.word),
    ("projectName", .str s.projectName),
    ("cookieDomain", .ofStr? s.cookieDomain),
    ("issuerMode", .ofStr? (s.issuerMode.map (·.word)))]

/-! ## Addresses -/

def scheme (s : Settings) : String := if s.useHttps then "https" else "http"

def isProduction (s : Settings) : Bool := s.environment == productionEnvironment

/-- The address of a host as a browser sees it. -/
def url (s : Settings) (host : String) : String := s!"{s.scheme}://{host}.{s.baseDomain}"

/-- The address of a host, or of the domain itself where no host is named. -/
def urlOf (s : Settings) (host : Option String) : String :=
  match host with
  | some h => if h.isEmpty then s!"{s.scheme}://{s.baseDomain}" else s.url h
  | none => s!"{s.scheme}://{s.baseDomain}"

def portalUrl (s : Settings) : String := s.url portalHost

def keycloakUrl (s : Settings) : String := s.url keycloakHost

def issuerUrl (s : Settings) : String := s!"{s.keycloakUrl}/realms/{s.realm}"

/-- The name under which a container is reached inside the network. -/
def container (s : Settings) (id : String) : String := s!"{s.deploymentId}-{s.projectName}-{id}"

def internalIssuerUrl (s : Settings) : String :=
  let name := s.container keycloakHost
  s!"http://{name}:{keycloakPort}/realms/{s.realm}"

/-- Whether sidecars discover the issuer over the internal network. -/
def usesInternalIssuer (s : Settings) : Bool :=
  match s.issuerMode with
  | some mode => mode == .internal
  | none => s.environment == internalIssuerEnvironment

end Settings
end StackCompiler
