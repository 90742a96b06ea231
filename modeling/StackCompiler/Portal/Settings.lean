import StackCompiler.Environment.Basic
import StackCompiler.Session
import StackCompiler.Stack.Settings

/-!
# Portal settings

What the portal needs to sign users out. The settings come from a stack, from a document or from an
environment.
-/

namespace StackCompiler.Portal

structure Settings where
  /-- Where a browser finds the portal. -/
  portalUrl : String
  /-- Where a browser finds the identity provider. -/
  keycloakUrl : String
  realm : String
  environment : String
  clientId : String := "portal"
  /-- Where the internal proxy is found, through which services are probed. -/
  proxyUrl : Option String := none
  /-- How many milliseconds a probe waits for a connection. -/
  connectTimeout : Int := 300
  /-- How many milliseconds a probe waits for an answer. -/
  requestTimeout : Int := 750
  cookieDomain : Option String := none
  secureCookies : Bool := false
  descriptorText : Option String := none
  descriptorPath : Option String := none
  deriving DecidableEq, Repr

namespace Settings

def isProduction (s : Settings) : Bool := s.environment == productionEnvironment

/-- The address of the internal proxy, if it is not empty. -/
def proxy? (s : Settings) : Option String := s.proxyUrl.filter (!·.isEmpty)

/-! ## Documents -/

def decode (fs : Decode.Fields) : Decoded Settings :=
  let text (name : String) : Decoded String := Decode.required fs (.plain name) Decode.text
  let note (name : String) : Decoded (Option String) := Decode.maybe fs (.plain name) Decode.text
  Settings.mk
    <$> text "portal_public_url"
    <*> text "keycloak_public_url"
    <*> text "realm"
    <*> text "environment"
    <*> Decode.optional fs (.plain "client_id") "portal" Decode.text
    <*> note "traefik_internal_url"
    <*> Decode.optional fs (.plain "probe_connect_timeout_ms") 300 Decode.int
    <*> Decode.optional fs (.plain "probe_request_timeout_ms") 750 Decode.int
    <*> note "cookie_domain"
    <*> Decode.optional fs (.plain "cookie_secure") false Decode.bool
    <*> note "descriptor_json"
    <*> note "descriptor_path"

def toJson (s : Settings) : Json :=
  .obj [
    ("portal_public_url", .str s.portalUrl),
    ("keycloak_public_url", .str s.keycloakUrl),
    ("realm", .str s.realm),
    ("environment", .str s.environment),
    ("client_id", .str s.clientId),
    ("traefik_internal_url", .ofStr? s.proxyUrl),
    ("probe_connect_timeout_ms", .int s.connectTimeout),
    ("probe_request_timeout_ms", .int s.requestTimeout),
    ("cookie_domain", .ofStr? s.cookieDomain),
    ("cookie_secure", .bool s.secureCookies),
    ("descriptor_json", .ofStr? s.descriptorText),
    ("descriptor_path", .ofStr? s.descriptorPath)]

/-! ## Stacks -/

/-- The settings that a stack implies. -/
def ofStack (s : StackCompiler.Settings) : Settings where
  portalUrl := s.portalUrl
  keycloakUrl := s.keycloakUrl
  realm := s.realm
  environment := s.environment
  secureCookies := s.useHttps

/-- The fields that a stack implies, with others that replace them or are added. -/
def fieldsOfStack (s : StackCompiler.Settings) (others : Decode.Fields) : Decode.Fields :=
  others.foldl (fun fs (k, v) => setEntry k v fs)
    [(.str "portal_public_url", .str s.portalUrl),
     (.str "keycloak_public_url", .str s.keycloakUrl),
     (.str "realm", .str s.realm),
     (.str "environment", .str s.environment),
     (.str "cookie_secure", .bool s.useHttps)]

/-- The names that stand for the stack itself, which no other field can take. -/
def stackNames : List String := ["stack", "cls"]

/-- The settings of a stack, with fields of other values. -/
def ofStackWith (s : StackCompiler.Settings) (others : Decode.Fields) : Except Failure Settings :=
  if stackNames.any fun name => (others.lookup (.str name)).isSome then .error .wrongType
  else (decode (fieldsOfStack s others)).toExcept .rejected

/-! ## Environments -/

/-- The variables that must have a value. -/
def requiredVariables : List String :=
  ["PORTAL_PUBLIC_URL", "KEYCLOAK_PUBLIC_URL", "KEYCLOAK_REALM", "ENVIRONMENT"]

/-- The integer that a variable holds. -/
def integerOf (env : Environment) (name : String) (default : Int) : Except Failure Int :=
  match env.get? name with
  | none => .ok default
  | some s =>
    match Text.integer? s with
    | some n => .ok n
    | none => .error .badValue

def ofEnvironment (env : Environment) : Except Failure Settings := do
  let missing := requiredVariables.filter fun name => (env.nonempty? name).isNone
  unless missing.isEmpty do throw (.missingVariables missing)
  let value (name : String) : String := (env.get? name).getD ""
  return {
    portalUrl := value "PORTAL_PUBLIC_URL"
    keycloakUrl := value "KEYCLOAK_PUBLIC_URL"
    realm := value "KEYCLOAK_REALM"
    environment := value "ENVIRONMENT"
    clientId := (env.get? "PORTAL_CLIENT_ID").getD "portal"
    proxyUrl := env.nonempty? "TRAEFIK_INTERNAL_URL"
    connectTimeout := ← integerOf env "LOGOUT_PROBE_CONNECT_TIMEOUT_MS" 300
    requestTimeout := ← integerOf env "LOGOUT_PROBE_REQUEST_TIMEOUT_MS" 750
    cookieDomain := env.nonempty? "COOKIE_DOMAIN"
    secureCookies := (env.get? "COOKIE_SECURE").any fun s => Text.lower s == "true"
    descriptorText := env.nonempty? "PORTAL_DESCRIPTOR_JSON"
    descriptorPath := env.nonempty? "PORTAL_DESCRIPTOR_PATH" }

/-- The settings of an environment; the environment they are for is noted. -/
def load (env : Environment) : Session σ Settings := do
  let s ← Session.ofExcept (ofEnvironment env)
  Session.note ⟨.debug, "stackgen.lib.config",
    s!"Loaded portal settings for environment {s.environment}", none, none, none⟩
  return s

end Settings
end StackCompiler.Portal
