import StackCompiler.Deployment.Basic
import StackCompiler.Descriptor.Basic
import StackCompiler.Descriptor.Schema
import StackCompiler.Failure
import StackCompiler.Json.Reader

/-!
# Generating and delivering descriptors

A descriptor lists the services by group and name, those without a group last, and must satisfy its
schema. It is delivered as a file, or inline as one line of limited size, and read back from either.
-/

namespace StackCompiler

namespace Descriptor

/-! ## The order of entries -/

/-- What entries are ordered by. -/
structure EntryKey where
  isUngrouped : Bool
  group : Text.CollationKey
  name : Text.CollationKey
  deriving DecidableEq, Repr

def EntryKey.compare (a b : EntryKey) : Ordering :=
  (Ord.compare a.isUngrouped b.isUngrouped).then
    ((a.group.compare b.group).then (a.name.compare b.name))

/-- The key of a group and a name; there is none where a run of digits is too long. -/
def entryKey? (group : Option String) (name : String) : Option EntryKey := do
  return ⟨group.isNone, ← Text.collationKey? (group.getD ""), ← Text.collationKey? name⟩

/-- The list in the order of the groups and names of its items. -/
def sortByName (group : α → Option String) (name : α → String) (xs : List α) :
    Except Failure (List α) := do
  let keyed ← xs.mapM fun x =>
    match entryKey? (group x) (name x) with
    | some key => .ok (key, x)
    | none => .error .badValue
  return (keyed.mergeSort fun a b => (a.1.compare b.1).isLE).map (·.2)

def sortEntries (entries : List Entry) : Except Failure (List Entry) :=
  sortByName (·.group) (·.name) entries

/-! ## Generation -/

def entryOf (settings : Settings) (s : Service) : Entry where
  id := s.id
  name := s.displayName
  url := settings.urlOf (some s.host)
  isProtected := s.isGuarded
  access := s.access
  group := s.group
  icon := s.icon
  description := s.description
  roles := if s.isGuarded then some s.roles else none

/-- Fails with every problem of a document that does not satisfy the schema. -/
def check (document : Json) : Except Failure Unit :=
  match schema.report document with
  | [] => .ok ()
  | problems => .error (.badDescriptor problems)

def generate (settings : Settings) (d : Deployment) : Except Failure Descriptor := do
  let descriptor : Descriptor := {
    version := currentVersion
    deploymentId := settings.deploymentId
    environment := settings.environment
    baseDomain := settings.baseDomain
    portalUrl := settings.portalUrl
    identityProvider := ⟨settings.keycloakUrl, settings.issuerUrl, settings.realm⟩
    services := ← sortEntries (d.services.map (entryOf settings)) }
  check descriptor.toJson
  return descriptor

/-! ## Delivery -/

/-- The text for delivery as a file. -/
def text (d : Descriptor) : String := d.toJson.write .indented

/-- The text for inline delivery, which has a greatest size. -/
def inlineText (d : Descriptor) : Except Failure String :=
  let text := d.toJson.write .compact
  let size := (Utf8.encode text).length
  if maxInlineBytes < size then .error (.descriptorTooLarge size) else .ok text

/-- The descriptor of a document that satisfies the schema. -/
def ofJson (document : Json) : Except Failure Descriptor := do
  check document
  (Decode.record decode (.ofJson document)).toExcept .rejected

def ofText (text : String) : Except Failure Descriptor :=
  match Json.read text with
  | .ok document => ofJson document
  | .error .malformed => .error .badJson
  | .error .integerTooLong => .error .badValue
  | .error .tooDeep => .error .tooDeep

end Descriptor
end StackCompiler
