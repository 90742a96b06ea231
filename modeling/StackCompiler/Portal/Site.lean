import StackCompiler.Descriptor.Load
import StackCompiler.Http.Message
import StackCompiler.Portal.Cascade
import StackCompiler.Text.Pattern

/-!
# The site of the portal

The portal answers a health check, the hops of the sign-out cascade, the landing after it, and the
pages of its documentation, of which only the presence is modelled. Without a descriptor it cannot
sign out; `Portal.start` loads one.
-/

namespace StackCompiler.Portal

open Http

/-! ## Starting -/

/-- The portal that an environment describes. -/
def start (env : Environment) : Machine.Action Portal := do
  let settings ← Settings.load env
  let path := (settings.descriptorPath.filter (!·.isEmpty)).map Path.ofString
  let descriptor ← Descriptor.load settings.descriptorText path
  let _ ← Session.ofExcept (Probe.Timeouts.ofSettings settings)
  return { settings, descriptor }

/-! ## Cookies -/

/-- The path for which a cookie was set. -/
def cookiePath (name : String) : String := if name = "oauth_state" then "/auth" else "/"

/-- Whether a text can stand in a header. -/
def isHeaderText (s : String) : Bool := s.toList.all (·.toNat < 256)

def expiredCookie (s : Settings) (name : String) : ExpiredCookie where
  name := name
  domain := s.cookieDomain.filter (!·.isEmpty)
  path := cookiePath name
  isSecure := s.secureCookies

def expiredCookies (s : Settings) (names : List String) :
    Except Failure (List ExpiredCookie) :=
  if isHeaderText (s.cookieDomain.getD "") then .ok (names.map (expiredCookie s))
  else .error .notHeaderText

/-! ## Pages -/

inductive Page where
  | health
  | signOut
  | signOutComplete
  | documentation
  deriving DecidableEq, Repr

def pages : List (String × Page) :=
  [("/openapi.json", .documentation), ("/docs", .documentation),
   ("/docs/oauth2-redirect", .documentation), ("/redoc", .documentation), ("/healthz", .health),
   ("/auth/logout", .signOut), ("/auth/logout/complete", .signOutComplete)]

/-- Pages are read; of the documentation the headers may be asked for alone. -/
def Page.allows (page : Page) (method : String) : Bool :=
  method == "GET" || (page == .documentation && method == "HEAD")

/-- The page at a path; one line feed at the end of the path is left out of account. -/
def page? (path : String) : Option Page :=
  pages.lookup (String.ofList (Text.dropFinalNewline path.toList))

/-- The path without the slashes at its end, or with one added if there is none. -/
def otherPath (path : String) : String :=
  let cs := path.toList
  if cs.getLast? = some '/' then String.ofList (cs.reverse.dropWhile (· = '/')).reverse
  else path ++ "/"

/-- The address of a path on this site. -/
def siteUrl (r : Request) (path : String) : String :=
  let host := ((r.headersOf "host").head?).getD ""
  "http://" ++ host ++ path ++ (if r.query.isEmpty then "" else "?" ++ r.query)

/-- What is answered where no page is: where a slash makes the difference, a redirect. -/
def missing (r : Request) : Response :=
  let other := otherPath r.path
  if r.path ≠ "/" ∧ (page? other).isSome then redirect 307 (siteUrl r other)
  else problem 404 "Not Found"

def healthPage : Session σ Response := do
  Session.note ⟨.debug, "healthz", "Health check endpoint called", none, none, none⟩
  return { status := 200, body := some (.obj [("status", .str "running")]) }

/-- One hop of the cascade. -/
def signOutPage (p : Portal) (prober : Prober σ) (now : Number) (r : Request) :
    Session σ Response := do
  let hop ← p.step prober now (r.parameter? "serviceId") (r.cookie? tokenCookie)
  let cookies ← Session.ofExcept (expiredCookies p.settings hop.clearedCookies)
  return redirect 303 hop.redirectUrl cookies

def signOutCompletePage : Session σ Response := do
  Session.note ⟨.info, "stackgen.routers.logout", "Logout complete", some "logout_complete", none,
    none⟩
  return redirect 303 "/"

def respond (portal : Option (Portal × Prober σ)) (now : Number) (r : Request) :
    Session σ Response :=
  match page? r.path with
  | none => return missing r
  | some page =>
    if !page.allows r.method then return problem 405 "Method Not Allowed"
    else match page, portal with
      | .documentation, _ => return { status := 200 }
      | .health, _ => healthPage
      | .signOutComplete, _ => signOutCompletePage
      | .signOut, none => return problem 503 "Logout is not configured"
      | .signOut, some (p, prober) => p.signOutPage prober now r

end StackCompiler.Portal
