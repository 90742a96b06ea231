import StackCompiler.Portal.Settings
import StackCompiler.Url.Host

/-!
# Probes

Before a browser is sent to a service, the portal asks whether the service answers: one request for
the headers of its base address, without following redirects and without a second try. Any answer
counts. Through the internal proxy the host is named in a header, and an answer that nothing was
found means that the proxy knows no such host.
-/

namespace StackCompiler.Probe

/-- How many seconds a request waits for a connection and for an answer. -/
structure Timeouts where
  connect : Binary64
  request : Binary64
  deriving DecidableEq, Repr

/-- Milliseconds as seconds; a number beyond the range is refused. -/
def secondsOfMillis (n : Int) : Except Failure Binary64 :=
  match Binary64.ofRatio (n < 0) n.natAbs 1000 with
  | .finite negative m e => .ok (.finite negative m e)
  | _ => .error .outOfRange

def Timeouts.ofSettings (s : Portal.Settings) : Except Failure Timeouts := do
  return ⟨← secondsOfMillis s.connectTimeout, ← secondsOfMillis s.requestTimeout⟩

/-- A request for headers. -/
structure Request where
  url : String
  host : Option String
  timeouts : Timeouts
  followsRedirects : Bool := false
  deriving DecidableEq, Repr

inductive Outcome where
  | status (code : Int)
  | failed (reason : String)
  deriving DecidableEq, Repr

/-- What sends requests. -/
abbrev Network (σ : Type) := Request → Session σ Outcome

def logger : String := "stackgen.services.logout_service"

def warn (message : String) (event : Option String) : Session σ Unit :=
  Session.note ⟨.warning, logger, message, event, none, none⟩

/-- The request that probes a service: to the proxy if there is one, else to the service itself. -/
def request (timeouts : Timeouts) (proxy : Option String) (url host : String) : Request :=
  match proxy with
  | some proxyUrl => { url := proxyUrl, host := some host, timeouts }
  | none => { url, host := none, timeouts }

/-- Whether the answer comes from the proxy, which has no route to the host. -/
def isWithoutRoute (proxy : Option String) (code : Int) : Bool := proxy.isSome && code == 404

/-- Whether a service answers. One whose address names no host is not asked. -/
def isReachable (network : Network σ) (timeouts : Timeouts) (proxy : Option String)
    (url : String) : Session σ Bool := do
  match ← Session.ofExcept (Url.host? url) with
  | none =>
    warn s!"Cannot probe malformed service URL {url}" none
    return false
  | some host =>
    match ← network (request timeouts proxy url host) with
    | .failed reason =>
      warn s!"Service {url} unreachable: {reason}" "logout_probe_failed"
      return false
    | .status code =>
      if isWithoutRoute proxy code then
        warn s!"No route for {host} behind the internal proxy" "logout_probe_no_route"
        return false
      else return true

end StackCompiler.Probe
