import StackCompiler.Deployment.Validation
import StackCompiler.Descriptor.Generate
import StackCompiler.Machine
import StackCompiler.Realm.Build
import StackCompiler.Routing.Document
import StackCompiler.Sidecar
import StackCompiler.Stack.File
import StackCompiler.Yaml.Printer

/-!
# Artifacts

Compiling a stack file checks its declaration and generates four kinds of texts: the routing
document, the realm, one environment for each sidecar, and the portal's descriptor. Nothing results
unless all of them succeed.
-/

namespace StackCompiler

structure Artifacts where
  routing : String
  realm : String
  /-- The texts of the sidecars' environments, by service id. -/
  sidecars : List (String × String)
  descriptor : String
  /-- The descriptor on one line, where it is delivered inline. -/
  inlineDescriptor : Option String
  deriving DecidableEq, Repr

namespace StackFile

/-! ## Stages -/

/-- All violations of the declaration, those of its passwords last. -/
def violations (f : StackFile) : List Violation :=
  f.declaration.violations Catalog.builtIn.ids f.settings.environment ++
    f.declaration.passwordViolations

/-- The deployment that the file describes, if it keeps all rules. -/
def resolve (f : StackFile) : Except Failure Deployment :=
  match f.violations with
  | [] => .ok (f.declaration.resolve f.settings.environment)
  | vs => .error (.violations .deployment vs)

def routingDocument (f : StackFile) (d : Deployment) : Except Failure Routing.Document := do
  Routing.generate f.settings (← Routing.requests f.settings Catalog.builtIn d)

def realmDocument (f : StackFile) (hashing : Hashing) (secrets : Secrets)
    (d : Deployment) : Except Failure Realm.Document := do
  Realm.build f.settings d {
    portalClientSecret := secrets.portalClientSecret
    clientSecrets := secrets.clientSecrets
    credentials := ← f.declaration.credentials hashing }

/-- The descriptor on one line, if the settings ask for inline delivery. -/
def inlineDescriptor (f : StackFile) (descriptor : Descriptor) : Except Failure (Option String) :=
  match f.settings.injection with
  | .json => descriptor.inlineText.map some
  | .file => .ok none

end StackFile

namespace Artifacts

/-! ## Compiling -/

def said (level : Log.Level) (logger message : String) : Session σ Unit :=
  Session.note ⟨level, "stackgen.services." ++ logger, message, none, none, none⟩

def noteResolved (d : Deployment) : Session σ Unit :=
  said .debug "inference_service"
    (s!"Resolved {d.services.length} services, {d.users.length} users and " ++
      s!"{d.roles.length} roles for environment {d.environment}")

/-- The violations of a stack file; what was found is noted either way. -/
def check (f : StackFile) : Session σ (List Violation) := do
  let environment := f.settings.environment
  noteResolved (f.declaration.resolve environment)
  let failed := (f.declaration.violations Catalog.builtIn.ids environment).length
  if failed ≠ 0 then
    said .debug "validation_service" s!"Declaration for {environment} failed {failed} checks"
  return f.violations

/-- The deployment of a stack file, if it keeps all rules. -/
def resolve (f : StackFile) : Session σ Deployment := do
  let _ ← check f
  Session.ofExcept f.resolve

def compile (hashing : Hashing) (f : StackFile) (secrets : Secrets) :
    Session σ Artifacts := do
  let d ← resolve f
  let routing ← Session.ofExcept (f.routingDocument d)
  said .debug "routing_service"
    (s!"Generated routing for {d.services.length} services in {d.environment} " ++
      s!"({routing.middlewares.length} middlewares)")
  let realm ← Session.ofExcept (f.realmDocument hashing secrets d)
  said .debug "realm_service"
    (s!"Built realm {realm.realm} with {realm.clients.length} clients and " ++
      s!"{realm.users.length} users")
  let sidecars ← Session.ofExcept (Sidecar.buildAll f.settings Catalog.builtIn d secrets)
  said .debug "sidecar_service" s!"Built {sidecars.length} sidecar environments"
  let descriptor ← Session.ofExcept (Descriptor.generate f.settings d)
  let inlineDescriptor ← Session.ofExcept (f.inlineDescriptor descriptor)
  said .info "compiler_service"
    (s!"Compiled stack {f.settings.deploymentId}: {d.services.length} services, " ++
      s!"{sidecars.length} sidecars")
  return {
    routing := Yaml.write routing.toData
    realm := realm.text
    sidecars := sidecars.map fun e => (e.id, e.text)
    descriptor := descriptor.text
    inlineDescriptor }

/-! ## Writing -/

/-- A file to be written: what it is called in reports, its place, its text, and who may read it. -/
structure Output where
  name : String
  path : Path
  text : String
  mode : FileMode
  deriving DecidableEq, Repr

/-- The files of the artifacts of a stack below a directory; those with secrets are for their owner
alone. -/
def outputs (realm : String) (directory : Path) (a : Artifacts) : List Output :=
  let below (folder file : String) : Path := (directory.join folder).join file
  [⟨"routing", below "traefik" "dynamic.yml", a.routing, .everyone⟩,
   ⟨"realm", below "keycloak" s!"realm-{realm}.json", a.realm, .ownerOnly⟩,
   ⟨"descriptor", below "portal" "descriptor.json", a.descriptor, .everyone⟩] ++
  (a.sidecars.map fun (id, text) =>
    ⟨s!"sidecar:{id}", below "oauth2-proxy" s!"{id}.env", text, .ownerOnly⟩) ++
  (match a.inlineDescriptor with
    | some text =>
      [⟨"descriptor-env", below "portal" "descriptor.env",
        "PORTAL_DESCRIPTOR_JSON=" ++ text ++ "\n", .everyone⟩]
    | none => [])

/-- Writes one file; a mode that is not for everyone is set on the file. -/
def writeOutput (o : Output) : Machine.Action Unit := do
  Machine.makeDirectory o.path.parent
  Machine.write o.path o.text
  if o.mode ≠ .everyone then Machine.setMode o.path o.mode
  said .debug "compiler_service" s!"Wrote {o.name} to {o.path.text}"

/-- Writes all files, and names their places. -/
def write (realm : String) (directory : Path) (a : Artifacts) :
    Machine.Action (List (String × Path)) := do
  let files := a.outputs realm directory
  files.forM writeOutput
  return files.map fun o => (o.name, o.path)

def toJson (a : Artifacts) : Json :=
  .obj [
    ("routing_yaml", .str a.routing),
    ("realm_json", .str a.realm),
    ("sidecar_envs", .obj (a.sidecars.map fun (k, v) => (k, .str v))),
    ("descriptor_json", .str a.descriptor),
    ("descriptor_compact", .ofStr? a.inlineDescriptor)]

end Artifacts
end StackCompiler
