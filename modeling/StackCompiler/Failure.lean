import StackCompiler.Data.Decode
import StackCompiler.Deployment.Violation
import StackCompiler.Routing.Request
import StackCompiler.Schema.Basic

/-!
# Failures

Every way in which an operation fails, by its cause. A failure is *reported* when its message is
meant for the operator; the others are faults of the input that no message was made for.
-/

namespace StackCompiler

/-- A secret that a generator needs and does not have. -/
inductive MissingSecret where
  | portalClient
  | clients (ids : List String)
  | client (id : String)
  | cookieLength (id : String)
  | credential (username : String)
  | password (username : String)
  deriving DecidableEq, Repr

def MissingSecret.message : MissingSecret → String
  | portalClient => "Missing portal client secret"
  | clients ids =>
    let names := ", ".intercalate ids
    s!"Missing client secret for services: {names}"
  | client id => s!"Missing client secret for {id}"
  | cookieLength id => s!"Cookie secret for {id} must be 16, 24 or 32 bytes"
  | credential username => s!"Missing credential for user {username}"
  | password username => s!"Missing password for user {username}"

/-- What the violations of a deployment are reported under. -/
inductive Heading where
  | deployment
  | passwords
  deriving DecidableEq, Repr

def Heading.text : Heading → String
  | deployment => "Deployment configuration validation failed"
  | passwords => "Bootstrap user credentials are incomplete"

/-- The greatest size of a descriptor that is delivered inline. -/
def maxInlineBytes : Nat := 64 * 1024

inductive Failure where
  -- reported failures
  | noStackFile (path : String)
  | noDescriptorFile (path : String)
  | noDescriptorSource
  | notMapping (source kind : String)
  | sectionNotMapping (source name : String)
  | stackFileUnreadable (path : String)
  | stackFileRejected (source : String) (issues : List Issue)
  | secretsUnreadable (path : String)
  | violations (heading : Heading) (vs : List Violation)
  | badRoutes (problems : List RouteProblem)
  | badDescriptor (problems : List Schema.Problem)
  | descriptorTooLarge (bytes : Nat)
  | missingSecret (what : MissingSecret)
  | missingVariables (names : List String)
  -- other failures
  | rejected (issues : List Issue)
  | notInCatalog (id : String)
  /-- A text in a document that is no truth value where one is demanded. -/
  | noTruthValue (word : String)
  /-- A value of a wrong type where no field is read. -/
  | wrongType
  | badValue
  | badJson
  /-- Collections inside one another beyond what is read. -/
  | tooDeep
  | outOfRange
  /-- A position beyond the end of a text or a list. -/
  | beyondEnd
  /-- A name that no member of a mapping has. -/
  | noSuchKey (name : String)
  /-- A text that is no time where one is demanded. -/
  | noTime
  /-- An attribute of a log record that is not of the kind that is asked for. -/
  | badAttribute
  /-- A text with characters that no header can hold. -/
  | notHeaderText
  | cascadeWithoutEnd
  | noSuchFile (path : String)
  | isDirectory (path : String)
  | notDirectory (path : String)
  | directoryExists (path : String)
  | nameTooLong (path : String)
  deriving Repr

namespace Failure

def bullets (lines : List String) : String := "\n".intercalate (lines.map ("  - " ++ ·))

/-- The message of a reported failure. One with a cause in a document ends where the description of
the cause follows. -/
def message? : Failure → Option String
  | noStackFile path => some s!"Config file not found: {path}. Run 'stackgen init' first."
  | noDescriptorFile path => some s!"Descriptor file not found: {path}"
  | noDescriptorSource => some "No descriptor source configured"
  | notMapping source kind =>
    some s!"Invalid configuration in {source}: expected a mapping, got {kind}"
  | sectionNotMapping source name =>
    some s!"Invalid configuration in {source}: '{name}' must be a mapping"
  | stackFileUnreadable path => some s!"Invalid YAML in {path}: "
  | stackFileRejected source _ => some s!"Invalid configuration in {source}:\n"
  | secretsUnreadable path => some s!"Failed to parse {path}: "
  | violations heading vs => some (heading.text ++ ":\n" ++ bullets (vs.map (·.line)))
  | badRoutes problems => some ("Invalid route requests:\n" ++ bullets (problems.map (·.message)))
  | badDescriptor problems =>
    some ("Descriptor schema validation failed:\n" ++ bullets (problems.map (·.line)))
  | descriptorTooLarge bytes =>
    some (s!"Descriptor is {bytes} bytes; inline delivery allows at most {maxInlineBytes}. " ++
      "Use descriptorInjection: file")
  | missingSecret what => some what.message
  | missingVariables names =>
    let list := ", ".intercalate names
    some s!"Missing environment variables: {list}"
  | _ => none

/-- Whether a description of the cause follows the message. -/
def hasCause : Failure → Bool
  | stackFileUnreadable _ | stackFileRejected .. | secretsUnreadable _ => true
  | _ => false

/-- The issues of a failure that comes from reading fields. -/
def issues : Failure → List Issue
  | stackFileRejected _ is | rejected is => is
  | _ => []

end Failure

/-- The value that was read, or the failure of reading it. -/
def Decoded.toExcept (onIssues : List Issue → Failure) : Decoded α → Except Failure α
  | .ok a => .ok a
  | .rejected is => .error (onIssues is)
  | .notIterable => .error .wrongType

end StackCompiler
