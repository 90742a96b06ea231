import StackCompiler.Catalog
import StackCompiler.Deployment.Basic
import StackCompiler.Stack.Settings

/-!
# Route requests

A route request asks for a host to be routed to an address inside the network. Hosts must be slugs,
distinct, and not those of the core services.
-/

namespace StackCompiler

/-- An address inside the network. -/
structure Endpoint where
  address : String
  port : Int
  deriving DecidableEq, Repr

structure RouteRequest where
  host : String
  endpoint : Endpoint
  deriving DecidableEq, Repr

def Endpoint.decode (fs : Decode.Fields) : Decoded Endpoint :=
  Endpoint.mk
    <$> Decode.required fs (.plain "address") Decode.text
    <*> Decode.required fs (.plain "port") Decode.int

def RouteRequest.decode (fs : Decode.Fields) : Decoded RouteRequest :=
  RouteRequest.mk
    <$> Decode.required fs (.plain "host") Decode.text
    <*> Decode.required fs (.plain "upstream") (Decode.record Endpoint.decode)

def Endpoint.toJson (e : Endpoint) : Json :=
  .obj [("address", .str e.address), ("port", .int e.port)]

def RouteRequest.toJson (r : RouteRequest) : Json :=
  .obj [("host", .str r.host), ("upstream", r.endpoint.toJson)]

/-- The port that sidecars listen on. -/
def sidecarPort : Nat := 4180

namespace Service

/-- The container of the sidecar in front of a service. -/
def sidecarContainer (settings : Settings) (s : Service) : String :=
  settings.container s!"{s.id}-oauth2-proxy"

/-- Where requests for a service go: to its sidecar if it has one, else to the application. There
is no address for a service that is in no catalog. -/
def endpoint? (settings : Settings) (catalog : Catalog) (s : Service) : Option Endpoint :=
  if s.hasSidecar then some ⟨s.sidecarContainer settings, sidecarPort⟩
  else (catalog.port? s.id).map fun port => ⟨settings.container s.id, port⟩

end Service

/-! ## Problems -/

/-- What is wrong with a requested host. -/
inductive RouteProblem where
  | duplicate (host : String)
  | malformed (host : String)
  | reserved (host : String)
  deriving DecidableEq, Repr

def RouteProblem.message : RouteProblem → String
  | duplicate host => s!"Duplicate host: \"{host}\" is defined multiple times"
  | malformed host =>
    s!"Invalid host slug: \"{host}\" must be lowercase alphanumeric with hyphens"
  | reserved host => s!"Reserved host: \"{host}\" is reserved for core infrastructure"

/-- The problems of a host after those that came before it. -/
def hostProblems (seen : List String) (host : String) : List RouteProblem :=
  (if seen.contains host then [.duplicate host] else []) ++
  (if Text.isSlug host then [] else [.malformed host]) ++
  (if reservedHosts.contains host then [.reserved host] else [])

/-- The problems of hosts in their order, after hosts that came before them. -/
def hostListProblems (seen : List String) : List String → List RouteProblem
  | [] => []
  | host :: hosts => hostProblems seen host ++ hostListProblems (host :: seen) hosts

def routeProblems (routes : List RouteRequest) : List RouteProblem :=
  hostListProblems [] (routes.map (·.host))

end StackCompiler
