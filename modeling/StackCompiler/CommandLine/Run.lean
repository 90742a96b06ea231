import StackCompiler.Artifacts
import StackCompiler.CommandLine.Command
import StackCompiler.Portal.Cascade
import StackCompiler.Secrets.Store

/-!
# Running commands

`CommandLine.run` carries out a command line on a machine: it gives the exit code, what is written
to the output and to the errors, and what else the command asks for. With `--debug` the log is
written to the output before what the command reports.
-/

namespace StackCompiler.CommandLine

/-- What a command reports when it is done. -/
structure Report where
  lines : List String := []
  exitCode : Nat := 0
  /-- Where the portal is to be served. -/
  address : Option (String × Int) := none
  deriving DecidableEq, Repr

/-! ## The commands -/

def count (n : Nat) (noun : String) : String := s!"{n} {noun}"

/-- What validation reports about a deployment that keeps all rules. -/
def okLine (d : Deployment) : String :=
  let counts := [count d.services.length "services", count d.roles.length "roles",
    count d.users.length "users"]
  "OK: " ++ ", ".intercalate counts

def checkStack (p : Project) : Machine.Action Report := do
  let f ← p.load
  match ← Artifacts.check f with
  | [] => return { lines := [okLine (f.declaration.resolve f.settings.environment)] }
  | vs =>
    return {
      lines := vs.map (fun v => s!"  - [{v.code}] {v.message} (at {v.path})") ++
        [s!"{vs.length} problem(s) found"]
      exitCode := 1 }

def completeSecrets (p : Project) : Machine.Action Report := do
  let d ← Artifacts.resolve (← p.load)
  let secrets ← Secrets.ensure p.secretsFile d.guardedIds
  let n := secrets.clientSecrets.length
  return { lines := [s!"Secrets for {n} services in {p.secretsFile.text}"] }

def renewSecrets (p : Project) (service : Option String) : Machine.Action Report := do
  let _ ← Secrets.rotate p.secretsFile service
  let whose := (service.filter (!·.isEmpty)).getD "all services"
  return { lines := [s!"Rotated secrets for {whose}"] }

/-- Generates the secrets that are missing, and all artifacts. -/
def writeArtifacts (hashing : Hashing) (p : Project) (output : Option String) :
    Machine.Action Report := do
  let f ← p.load
  let d ← Artifacts.resolve f
  let secrets ← Secrets.ensure p.secretsFile d.guardedIds
  let artifacts ← Artifacts.compile hashing f secrets
  let directory := match output with
    | some o => Path.ofString o
    | none => p.outputDirectory
  let paths ← artifacts.write f.settings.realm directory
  return { lines := paths.map fun (name, path) => s!"{name}: {path.text}" }

/-- Takes every service for reachable unless its host is among the given ones. -/
def staticProber (unreachable : List String) : Portal.Prober σ := fun url =>
  return !unreachable.any fun host => Text.occursIn (s!"://{host}.").toList url.toList

def traceLines (t : Portal.Trace) : List String :=
  t.navigations.map (s!"navigate: {·}") ++ t.skipped.map (s!"skip: {·}") ++
    [s!"end-session: {t.endSessionUrl}"]

/-- The portal that plans a sign-out; it probes through a proxy, so that probing is not disabled. -/
def planningPortal (f : StackFile) (descriptor : Descriptor) : Portal where
  settings := { Portal.Settings.ofStack f.settings with proxyUrl := some "http://traefik" }
  descriptor := descriptor

def planSignOut (p : Project) (unreachable : List String) : Machine.Action Report := do
  let f ← p.load
  let d ← Artifacts.resolve f
  let descriptor ← Session.ofExcept (Descriptor.generate f.settings d)
  let portal := planningPortal f descriptor
  return { lines := traceLines (← portal.run (staticProber unreachable) (.int 0) none) }

def Command.run (hashing : Hashing) (p : Project) : Command → Machine.Action Report
  | .init force => return { lines := [s!"Config: {(← p.scaffold force).text}"] }
  | .validate => checkStack p
  | .ensureSecrets => completeSecrets p
  | .rotateSecrets service => renewSecrets p service
  | .compile output => writeArtifacts hashing p output
  | .logoutPlan unreachable => planSignOut p unreachable
  | .serve host port => return { address := some (host, port) }

/-! ## Outcomes -/

structure Outcome where
  exitCode : Nat
  output : String := ""
  errors : String := ""
  failure : Option Failure := none
  address : Option (String × Int) := none
  deriving Repr

def unlines (lines : List String) : String := String.join (lines.map (· ++ "\n"))

/-- What a failure says to the operator; `describe` adds what is known of its cause. -/
def failureText (describe : Failure → String) (f : Failure) : String :=
  match f, f.message? with
  | .violations .., some message => message ++ "\n"
  | _, some message => "Error: " ++ message ++ describe f ++ "\n"
  | _, none => "Unexpected error" ++ describe f ++ "\n"

def debugRecord (logger message : String) : Log.Record :=
  ⟨.debug, logger, message, none, none, none⟩

/-- What is noted once commands are about to run. -/
def startRecords : List Log.Record :=
  [debugRecord "root" "Logging configured to output structured JSON to stdout.",
   debugRecord "stackgen.cli.main" "Debug mode enabled"]

/-- What is noted about a failure: each violation, or that the failure was not foreseen. -/
def failureRecords (f : Failure) : List Log.Record :=
  let logger := "stackgen.cli.utils.error_handling"
  match f, f.message? with
  | .violations _ vs, _ => vs.map fun v => debugRecord logger s!"{v.code} at {v.path}"
  | _, some _ => []
  | _, none => [debugRecord logger "Unexpected CLI failure"]

/-- What it takes to run a command line beside the machine. -/
structure Setting where
  environment : Environment := []
  hashing : Hashing
  /-- The time that log lines show. -/
  created : Json := .int 0
  /-- How the cause of a failure is described. -/
  describe : Failure → String := fun _ => ""

/-- The lines of a log, if they are asked for. -/
def Setting.logText (s : Setting) (g : Globals) (records : List Log.Record) : String :=
  if g.debug then
    unlines ((startRecords ++ records).map (·.text (some (g.stackName s.environment)) s.created))
  else ""

/-- The outcome of a command line that fails after a log. -/
def failureOutcome (s : Setting) (log : String) (f : Failure) : Outcome where
  exitCode := 1
  output := log
  errors := plain (failureText s.describe f)
  failure := some f

/-- The outcome of a command line that is not carried out; `log` writes the log with more
records. -/
def Halt.outcome (s : Setting) (log : List Log.Record → String) : Halt → Outcome
  | .usage d e =>
    let hint := s!"Try '{d.words} --help' for help.\n\n"
    { exitCode := 2
      output := log []
      errors := plain (d.usage ++ hint ++ s!"Error: {e.message}\n") }
  | .listing d => { exitCode := 2, output := log [], errors := d.help }
  | .help d => { exitCode := 0, output := log [] ++ d.help }
  | .failed f => failureOutcome s (log (failureRecords f)) f

/-- The outcome of a command that was carried out. -/
def resultOutcome (s : Setting) (g : Globals) (log : List Log.Record) :
    Except Failure Report → Outcome
  | .ok r =>
    { exitCode := r.exitCode
      output := s.logText g log ++ plain (unlines r.lines)
      address := r.address }
  | .error f => failureOutcome s (s.logText g (log ++ failureRecords f)) f

/-- Whether a written path leads to a file. One that ends like a directory does not. -/
def isFileAt (t : Tree) (path : String) : Except Failure Bool :=
  if path.toList.contains '\x00' then .error .badValue
  else .ok (!Path.isDirectoryText path && t.isFile (.ofString path))

/-- Carries out a command line. -/
def run (s : Setting) (args : List String) (m : Machine) : Outcome × Machine :=
  match Globals.read (isFileAt m.tree) args with
  | .error halt => (halt.outcome s fun _ => "", m)
  | .ok (g, name, rest) =>
    match Command.read (isFileAt m.tree) name rest with
    | .error halt => (halt.outcome s (s.logText g), m)
    | .ok command =>
      let project : Project :=
        ⟨.ofString (g.projectRoot s.environment), g.stackName s.environment⟩
      let (result, trail) := Session.runFrom m (command.run s.hashing project)
      (resultOutcome s g trail.log result, trail.state)

end StackCompiler.CommandLine
