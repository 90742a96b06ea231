import StackCompiler.Machine
import StackCompiler.Stack.File
import StackCompiler.Yaml.Reader

/-!
# Projects

A project is a directory with a stack file, the secrets of the stack, and what is generated for it.
`Project.load` reads the stack file, `Project.scaffold` writes an example of one.
-/

namespace StackCompiler

structure Project where
  root : Path
  stack : String
  deriving DecidableEq, Repr

/-- What a fault in a document means; `onMalformed` is for a text that is no document. -/
def Failure.ofFault (onMalformed : Failure) : Yaml.Fault → Failure
  | .malformed => onMalformed
  | .badValue => .badValue
  | .outOfRange => .outOfRange
  | .noTruthValue word => .noTruthValue word
  | .emptyNumber => .beyondEnd
  | .noTime => .noTime
  | .wrongType => .wrongType
  | .tooDeep => .tooDeep

namespace Project

open Machine

/-! ## Places -/

def configFile (p : Project) : Path := p.root.join s!"config.{p.stack}.yaml"

def secretsFile (p : Project) : Path := (p.root.join ".secrets").join s!"secrets.{p.stack}.yaml"

def outputDirectory (p : Project) : Path := (p.root.join "generated").join p.stack

/-! ## Reading -/

/-- The data of a document; one without content is an empty mapping. -/
def readDocument (onMalformed : Failure) (path : Path) : Action Data := do
  match Yaml.read (← Machine.read path) with
  | .ok d => return if d.isVacant then .map [] else d
  | .error fault => throw (.ofFault onMalformed fault)

def logger : String := "stackgen.services.config_service"

/-- A stack file in data that comes from a source. -/
def parse (source : String) (d : Data) : Session σ StackFile := do
  let file ← Session.ofExcept (StackFile.ofData source d)
  let count := file.declaration.services.length
  Session.note ⟨.debug, logger, s!"Loaded {count} services from {source}", none, none, none⟩
  return file

def load (p : Project) : Action StackFile := do
  let path := p.configFile.text
  unless ← exists? p.configFile do throw (.noStackFile path)
  parse path (← readDocument (.stackFileUnreadable path) p.configFile)

/-! ## Scaffolding -/

/-- An example of a stack file. -/
def example_ (stack : String) : Data :=
  .record [
    ("stack", .record [
      ("deploymentId", .str stack),
      ("baseDomain", .str "localhost"),
      ("environment", .str "local"),
      ("keycloakRealm", .str "stackgen"),
      ("keycloakDevMode", .bool true),
      ("useHttps", .bool false),
      ("descriptorInjection", .str "file")]),
    ("roles", .strs ["admin", "dev"]),
    ("services", .record [
      ("demo", .record [
        ("displayName", .str "Demo App"),
        ("requiredRoles", .strs ["admin", "dev"]),
        ("group", .str "apps"),
        ("icon", .str "rocket"),
        ("description", .str "Demo application with OAuth2 protection")]),
      ("docs", .record [
        ("group", .str "docs"),
        ("icon", .str "book"),
        ("description", .str "Public documentation")]),
      ("dozzle", .record [
        ("displayName", .str "Container Logs"),
        ("requiredRoles", .strs ["admin"]),
        ("group", .str "admin"),
        ("icon", .str "terminal")]),
      ("logs", .record [
        ("displayName", .str "Logs"),
        ("requiredRoles", .strs ["admin"]),
        ("group", .str "admin"),
        ("icon", .str "chart")])]),
    ("credentials", .record [
      ("keycloakAdminUsername", .str "admin"),
      ("keycloakAdminPassword", .str ""),
      ("users", .list [
        .record [("username", .str "admin"), ("password", .str ""),
          ("roles", .strs ["admin", "dev"])],
        .record [("username", .str "dev"), ("password", .str ""), ("roles", .str "dev")]])])]

/-- Writes the example; an existing stack file is replaced only if `force` holds. -/
def scaffold (p : Project) (force : Bool) : Action Path := do
  let path := p.configFile
  let said (message : String) : Action Unit :=
    Session.note ⟨.info, logger, message, none, none, none⟩
  if (← exists? path) && !force then
    said s!"Skipping existing config file: {path.text}"
  else
    Machine.write path (Yaml.write (example_ p.stack))
    said s!"Wrote example config to {path.text}"
  return path

end Project
end StackCompiler
