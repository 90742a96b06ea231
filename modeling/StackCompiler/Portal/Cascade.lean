import StackCompiler.Descriptor.Basic
import StackCompiler.Encoding.Percent
import StackCompiler.Portal.Probe
import StackCompiler.Portal.Token

/-!
# The sign-out cascade

A user signs out of all services in a chain of redirects. On each hop the portal looks for the next
service that answers, after the one that sent the browser back, and sends the browser to its
sign-out address; where no service is left, to the end of the session at the identity provider.
`Portal.step` is one hop, and `Portal.run` is the whole chain as the browser sees it if every
service sends it straight back.
-/

namespace StackCompiler

/-- The portal: its settings, and the descriptor that lists the services. -/
structure Portal where
  settings : Portal.Settings
  descriptor : Descriptor
  deriving DecidableEq, Repr

namespace Portal

/-- What decides whether the service at an address is reachable. -/
abbrev Prober (σ : Type) := String → Session σ Bool

/-- What a hop goes through. -/
inductive Stage where
  | clearLocal
  | probeNext
  | redirectToService
  | skipService
  | done
  deriving DecidableEq, Repr

def Stage.word : Stage → String
  | clearLocal => "clear-local"
  | probeNext => "probe-next"
  | redirectToService => "redirect-to-service"
  | skipService => "skip-service"
  | done => "done"

/-- The outcome of a hop: where the browser goes, and which cookies expire. -/
structure Hop where
  redirectUrl : String
  /-- The service that is signed out, unless the chain is done. -/
  nextId : Option String := none
  /-- The services found unreachable, by id. -/
  skipped : List String
  clearedCookies : List String
  stages : List Stage
  deriving DecidableEq, Repr

def Hop.isDone (h : Hop) : Bool := h.nextId.isNone

/-- A whole chain as the browser sees it. -/
structure Trace where
  navigations : List String := []
  skipped : List String := []
  endSessionUrl : String := ""
  deriving DecidableEq, Repr

/-- The cookies that every hop expires. -/
def localCookies : List String := ["access_token", "oauth_state"]

/-- The cookie that holds the identity token. -/
def tokenCookie : String := "id_token"

/-! ## Events -/

def note (level : Log.Level) (message : String) (event : Option String)
    (serviceId : Option String) : Session σ Unit :=
  Session.note ⟨level, Probe.logger, message, event, serviceId, none⟩

/-! ## Addresses -/

def workList (p : Portal) : List Descriptor.Entry := p.descriptor.workList

/-- Where a service sends the browser back to. -/
def continueUrl (p : Portal) (id : String) : String :=
  p.settings.portalUrl ++ "/auth/logout?serviceId=" ++ Percent.encode id

def signOutUrl (p : Portal) (e : Descriptor.Entry) : String :=
  e.url ++ "/oauth2/sign_out?rd=" ++ Percent.encode (p.continueUrl e.id)

/-- Where the identity provider sends the browser at the very end. -/
def completeUrl (p : Portal) : String := p.settings.portalUrl ++ "/auth/logout/complete"

/-- The parameter by which the identity provider knows the session: the token, or the client. -/
def sessionParameter (p : Portal) (verdict : Token.Verdict) (idToken : Option String) : String :=
  if verdict = .usable then "id_token_hint=" ++ Percent.encode (idToken.getD "")
  else "client_id=" ++ Percent.encode p.settings.clientId

def endSessionUrlFor (p : Portal) (verdict : Token.Verdict) (idToken : Option String) : String :=
  p.settings.keycloakUrl ++ "/realms/" ++ p.settings.realm ++ "/protocol/openid-connect/logout?" ++
    p.sessionParameter verdict idToken ++ "&post_logout_redirect_uri=" ++
    Percent.encode p.completeUrl

def noteVerdict : Token.Verdict → Session σ Unit
  | .malformed =>
    note .info "id_token is malformed, using client_id for Keycloak logout" none none
  | .expired => note .info "id_token expired, using client_id for Keycloak logout" none none
  | .absent | .withoutExpiry | .usable => pure ()

/-- Where the session ends; why a token is not used is noted. -/
def endSessionUrl (p : Portal) (now : Number) (idToken : Option String) : Session σ String := do
  let verdict := Token.verdict now idToken
  noteVerdict verdict
  return p.endSessionUrlFor verdict idToken

/-! ## Which services are left -/

/-- A portal in production probes through the internal proxy or not at all: the descriptor must not
decide where it sends requests. -/
def probesDisabled (p : Portal) : Bool :=
  p.settings.isProduction && p.settings.proxy?.isNone

/-- The position after the first service with an id. -/
def positionAfter? (p : Portal) (id : String) : Option Nat :=
  (p.workList.findIdx? (·.id == id)).map (· + 1)

/-- Where the chain goes on after the service that sent the browser back; an id that no service has
starts it anew. -/
def startIndex (p : Portal) (lastId : Option String) : Session σ Nat := do
  match lastId with
  | none => return 0
  | some id =>
    match p.positionAfter? id with
    | some n => return n
    | none =>
      note .warning s!"Unknown serviceId {id}; restarting logout from first service"
        "logout_unknown_service_id" id
      return 0

/-- The services that a hop may still visit. -/
def remaining (p : Portal) (lastId : Option String) : Session σ (List Descriptor.Entry) := do
  if p.probesDisabled && !p.workList.isEmpty then
    note .warning "TRAEFIK_INTERNAL_URL not set in production; skipping service probes"
      "logout_missing_traefik_url" none
    return []
  else return p.workList.drop (← p.startIndex lastId)

/-! ## Hops -/

/-- The first reachable service, with the ids of those before it. -/
def findReachable (prober : Prober σ) :
    List Descriptor.Entry → Session σ (List String × Option Descriptor.Entry)
  | [] => return ([], none)
  | e :: rest => do
    if ← prober e.url then
      note .info s!"Redirecting to {e.id} sign_out" "logout_service_redirect" e.id
      return ([], some e)
    else
      note .warning s!"Skipping unreachable service {e.id}; its session stays active"
        "logout_service_skipped" e.id
      let (skipped, found) ← findReachable prober rest
      return (e.id :: skipped, found)

def skipStages (skipped : List String) : List Stage :=
  skipped.flatMap fun _ => [.probeNext, .skipService]

/-- The hop to a service. -/
def hopTo (p : Portal) (skipped : List String) (e : Descriptor.Entry) : Hop where
  redirectUrl := p.signOutUrl e
  nextId := some e.id
  skipped := skipped
  clearedCookies := localCookies
  stages := .clearLocal :: skipStages skipped ++ [.probeNext, .redirectToService]

/-- The last hop. -/
def lastHop (skipped : List String) (endUrl : String) : Hop where
  redirectUrl := endUrl
  skipped := skipped
  clearedCookies := localCookies ++ [tokenCookie]
  stages := .clearLocal :: skipStages skipped ++ [.done]

def noteStart (lastId : Option String) : Session σ Unit :=
  match lastId with
  | none => note .info "Logout requested" "logout_start" none
  | some id => note .info s!"Continuing logout after {id}" "logout_continue" id

/-- The end of the chain is noted without its address, which may carry the token. -/
def noteEnd (idToken : Option String) : Session σ Unit :=
  Session.note ⟨.info, Probe.logger, "Redirecting to Keycloak end-session",
    some "keycloak_logout_redirect", none, some (idToken.any (!·.isEmpty))⟩

/-- One hop, after the service that sent the browser back. -/
def step (p : Portal) (prober : Prober σ) (now : Number) (lastId idToken : Option String) :
    Session σ Hop := do
  noteStart lastId
  let (skipped, found) ← findReachable prober (← p.remaining lastId)
  match found with
  | some e => return p.hopTo skipped e
  | none =>
    noteEnd idToken
    return lastHop skipped (← p.endSessionUrl now idToken)

/-! ## Chains -/

/-- The hops of a chain, at most as many as there is fuel. -/
def hopsFrom (p : Portal) (prober : Prober σ) (now : Number) (idToken : Option String) :
    Nat → Option String → Session σ (List Hop)
  | 0, _ => throw .cascadeWithoutEnd
  | fuel + 1, lastId => do
    let hop ← p.step prober now lastId idToken
    if hop.isDone then return [hop]
    else return hop :: (← p.hopsFrom prober now idToken fuel hop.nextId)

/-- The hops of a whole chain. Where no two services have one id, each is visited at most once. -/
def hops (p : Portal) (prober : Prober σ) (now : Number) (idToken : Option String) :
    Session σ (List Hop) :=
  p.hopsFrom prober now idToken (p.workList.length + 1) none

def Trace.ofHops (hs : List Hop) : Trace where
  navigations := (hs.filter (!·.isDone)).map (·.redirectUrl)
  skipped := hs.flatMap (·.skipped)
  endSessionUrl := ((hs.find? (·.isDone)).map (·.redirectUrl)).getD ""

/-- A whole chain as the browser sees it. -/
def run (p : Portal) (prober : Prober σ) (now : Number) (idToken : Option String) :
    Session σ Trace :=
  return Trace.ofHops (← p.hops prober now idToken)

/-! ## Probing over a network -/

/-- The prober that a portal uses, through its proxy if it has one. -/
def prober (p : Portal) (timeouts : Probe.Timeouts) (network : Probe.Network σ) : Prober σ :=
  Probe.isReachable network timeouts p.settings.proxy?

/-! ## Records -/

def Hop.toJson (h : Hop) : Json :=
  .obj [
    ("redirect_url", .str h.redirectUrl),
    ("next_service_id", .ofStr? h.nextId),
    ("skipped", .ofStrs h.skipped),
    ("clear_cookies", .ofStrs h.clearedCookies),
    ("states", .ofStrs (h.stages.map (·.word)))]

def Trace.toJson (t : Trace) : Json :=
  .obj [
    ("navigations", .ofStrs t.navigations),
    ("skipped", .ofStrs t.skipped),
    ("end_session_url", .str t.endSessionUrl)]

end Portal
end StackCompiler
