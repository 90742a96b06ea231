import StackCompiler.Failure
import StackCompiler.Text.Order

/-!
# The routing document

The document tells a reverse proxy which host leads to which address. It has three core routers and
one router for each route request; middlewares harden the answers where the settings ask for it.
`Routing.generate` builds the document from requests without problems.
-/

namespace StackCompiler

namespace Routing

/-- What is done with a request whose host matches the rule. -/
structure Router where
  rule : String
  backend : String
  entryPoints : List String
  middlewares : List String
  certResolver : Option String
  deriving DecidableEq, Repr

/-- The headers that are added to answers; `strictTransport` is the time in seconds for which
browsers keep to encrypted connections. -/
structure HeaderPolicy where
  frameDeny : Bool
  contentPolicy : String
  strictTransport : Option Nat
  deriving DecidableEq, Repr

inductive Middleware where
  | headers (policy : HeaderPolicy)
  | rateLimit (average burst : Nat) (period : String)
  | inFlight (amount : Nat)
  | redirect (pattern replacement : String) (permanent : Bool)
  deriving DecidableEq, Repr

/-- A backend is the address of its only server. -/
structure Document where
  routers : List (String × Router)
  backends : List (String × String)
  middlewares : List (String × Middleware)
  deriving DecidableEq, Repr

/-! ## Fixed parts -/

def strictContentPolicy : String :=
  "default-src 'self'; script-src 'self'; style-src 'self' 'unsafe-inline'; " ++
    "img-src 'self' data:; font-src 'self'"

/-- The login pages need scripts of their own and frames of the same origin. -/
def loginContentPolicy : String :=
  "default-src 'self'; script-src 'self' 'unsafe-inline'; style-src 'self' 'unsafe-inline'; " ++
    "img-src 'self' data:; font-src 'self'; frame-ancestors 'self'"

def strictTransportSeconds : Nat := 31536000

def certResolver : String := "letsencrypt"

/-- A backend of the proxy's own that is never reached. -/
def noBackend : String := "noop@internal"

def securityHeaders : String := "security-headers"

def loginSecurityHeaders : String := "keycloak-security-headers"

def rateLimit : String := "rate-limit"

def inFlight : String := "in-flight-req"

def portalRedirect : String := "redirect-to-portal"

/-! ## Parts -/

def isRateLimited (s : Settings) : Bool := s.isProduction

def hasSecurityHeaders (s : Settings) : Bool := s.isProduction || s.useHttps

def entryPoints (s : Settings) : List String := if s.useHttps then ["websecure"] else ["web"]

def hostRule (s : Settings) (host : String) : String := s!"Host(`{host}.{s.baseDomain}`)"

def router (s : Settings) (rule backend : String) (middlewares : List String) : Router where
  rule
  backend
  entryPoints := entryPoints s
  middlewares
  certResolver := if s.useHttps then some certResolver else none

/-- The middlewares of a hardened router; rates are limited before headers are attached. -/
def hardening (s : Settings) (headers : String) : List String :=
  (if isRateLimited s then [rateLimit, inFlight] else []) ++
    (if hasSecurityHeaders s then [headers] else [])

def hardenedRouter (s : Settings) (host backend : String) (headers : String) : Router :=
  router s (hostRule s host) backend (hardening s headers)

def headerPolicy (s : Settings) (contentPolicy : String) (frameDeny : Bool) : Middleware :=
  .headers {
    frameDeny
    contentPolicy
    strictTransport := if s.useHttps then some strictTransportSeconds else none }

def serverUrl (e : Endpoint) : String := s!"http://{e.address}:{e.port}"

def baseRouter (s : Settings) : Router :=
  router s s!"Host(`{s.baseDomain}`)" noBackend [portalRedirect]

def coreRouters (s : Settings) : List (String × Router) :=
  [("redirect-base", baseRouter s),
   ("core-portal", hardenedRouter s portalHost "core-portal" securityHeaders),
   ("core-keycloak", hardenedRouter s keycloakHost "core-keycloak" loginSecurityHeaders)]

def coreBackends (s : Settings) : List (String × String) :=
  [("core-portal", serverUrl ⟨s.container portalHost, portalPort⟩),
   ("core-keycloak", serverUrl ⟨s.container keycloakHost, keycloakPort⟩)]

def middlewares (s : Settings) : List (String × Middleware) :=
  (if hasSecurityHeaders s then
    [(securityHeaders, headerPolicy s strictContentPolicy true),
     (loginSecurityHeaders, headerPolicy s loginContentPolicy false)] else []) ++
  (if isRateLimited s then
    [(rateLimit, .rateLimit 100 50 "1s"), (inFlight, .inFlight 100)] else []) ++
  [(portalRedirect, .redirect "^.*$" s.portalUrl false)]

def routerName (host : String) : String := s!"host-{host}"

def backendName (host : String) : String := s!"svc-{host}"

/-! ## The document -/

/-- The document for requests that have no problems. -/
def document (s : Settings) (routes : List RouteRequest) : Document :=
  let sorted := Text.sortById (·.host) routes
  { routers := coreRouters s ++ sorted.map fun r =>
      (routerName r.host, hardenedRouter s r.host (backendName r.host) securityHeaders)
    backends := coreBackends s ++ sorted.map fun r => (backendName r.host, serverUrl r.endpoint)
    middlewares := middlewares s }

def generate (s : Settings) (routes : List RouteRequest) : Except Failure Document :=
  match routeProblems routes with
  | [] => .ok (document s routes)
  | problems => .error (.badRoutes problems)

/-- One request for each service of a deployment. -/
def requests (s : Settings) (catalog : Catalog) (d : Deployment) :
    Except Failure (List RouteRequest) :=
  d.services.mapM fun service =>
    match service.endpoint? s catalog with
    | some endpoint => .ok ⟨service.host, endpoint⟩
    | none => .error (.notInCatalog service.id)

/-! ## The written form -/

def Router.toData (r : Router) : Data :=
  .record (
    [("rule", .str r.rule), ("service", .str r.backend), ("entryPoints", .strs r.entryPoints)] ++
    (if r.middlewares.isEmpty then [] else [("middlewares", .strs r.middlewares)]) ++
    (match r.certResolver with
      | some name => [("tls", .record [("certResolver", .str name)])]
      | none => []))

def HeaderPolicy.toData (p : HeaderPolicy) : Data :=
  .record (
    [("contentTypeNosniff", .bool true),
     ("browserXssFilter", .bool true),
     ("frameDeny", .bool p.frameDeny),
     ("referrerPolicy", .str "strict-origin-when-cross-origin"),
     ("contentSecurityPolicy", .str p.contentPolicy)] ++
    (match p.strictTransport with
      | some seconds =>
        [("stsSeconds", .int seconds), ("stsIncludeSubdomains", .bool true),
         ("stsPreload", .bool true)]
      | none => []))

def Middleware.toData : Middleware → Data
  | headers policy => .record [("headers", policy.toData)]
  | rateLimit average burst period =>
    .record [("rateLimit", .record [("average", .int average), ("burst", .int burst),
      ("period", .str period)])]
  | inFlight amount => .record [("inFlightReq", .record [("amount", .int amount)])]
  | redirect pattern replacement permanent =>
    .record [("redirectRegex", .record [("regex", .str pattern),
      ("replacement", .str replacement), ("permanent", .bool permanent)])]

def backendData (url : String) : Data :=
  .record [("loadBalancer", .record [("servers", .list [.record [("url", .str url)]])])]

def Document.toData (d : Document) : Data :=
  .record [("http", .record [
    ("routers", .record (d.routers.map fun (k, r) => (k, r.toData))),
    ("services", .record (d.backends.map fun (k, url) => (k, backendData url))),
    ("middlewares", .record (d.middlewares.map fun (k, m) => (k, m.toData)))])]

end Routing
end StackCompiler
