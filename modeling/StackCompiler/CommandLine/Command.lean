import StackCompiler.CommandLine.Echo
import StackCompiler.CommandLine.Grammar
import StackCompiler.Environment.Basic

/-!
# Commands

The commands of the program and their options. Reading a command line takes two steps, because what
stands before the name of the command already has an effect: `Globals.read` reads up to the name,
and `Command.read` the rest.
-/

namespace StackCompiler.CommandLine

inductive Command where
  | init (force : Bool)
  | validate
  | ensureSecrets
  | rotateSecrets (service : Option String)
  | compile (output : Option String)
  | logoutPlan (unreachable : List String)
  | serve (host : String) (port : Int)
  deriving DecidableEq, Repr

/-- A command or a group of commands, as it is described to the user. -/
structure Description where
  /-- The words that lead to it. -/
  words : String
  summary : String
  options : List OptionSpec := []
  /-- The commands of a group with their summaries. -/
  commands : List (String × String) := []
  deriving DecidableEq, Repr

/-- Why a command line is not carried out. -/
inductive Halt where
  | usage (d : Description) (e : UsageError)
  /-- A group was named without any arguments. -/
  | listing (d : Description)
  | help (d : Description)
  /-- An argument that the file system does not take. -/
  | failed (f : Failure)
  deriving Repr

/-- Tells whether a written path leads to a file. -/
abbrev FileTest := String → Except Failure Bool

namespace Description

/-! ## Help -/

def helpOption : OptionSpec where
  name := "--help"
  purpose := "Show this message and exit."
  value := .none

def allOptions (d : Description) : List OptionSpec := d.options ++ [helpOption]

def isGroup (d : Description) : Bool := !d.commands.isEmpty

def usage (d : Description) : String :=
  "Usage: " ++ d.words ++ " [OPTIONS]" ++ (if d.isGroup then " COMMAND [ARGS]..." else "") ++ "\n"

/-- The commands of a group with what fits of their summaries. -/
def commandRows (d : Description) : String :=
  let longest := (d.commands.map (·.1.length)).foldl max 0
  rows (d.commands.map fun (name, summary) => (name, shortened (lineWidth - 6 - longest) summary))

def help (d : Description) : String :=
  let summary := fillLines (lineWidth - 2) (wordsOf d.summary)
  d.usage ++ "\n" ++ String.join (summary.map ("  " ++ · ++ "\n")) ++ "\nOptions:\n" ++
    rows (d.allOptions.map fun o => (o.forms, o.purpose)) ++
    (if d.isGroup then "\nCommands:\n" ++ d.commandRows else "")

/-! ## The descriptions -/

def program : String := "stackgen"

def root : Description where
  words := program
  summary := "Deployment configuration compiler."
  options := [
    { name := "--debug", letter := some 'd', value := .none, purpose := "Enable debug output" },
    { name := "--stack", letter := some 's', purpose := "Stack name (env: STACKGEN_STACK)" },
    { name := "--project-root", value := .directory
      purpose := "Directory holding config.<stack>.yaml (env: STACKGEN_PROJECT_ROOT)" }]
  commands := [
    ("compile",
      "Validate the declaration and write routing, realm, sidecar and descriptor files."),
    ("init", "Write an example config.<stack>.yaml."),
    ("logout-plan", "Print the navigations a browser would follow on logout."),
    ("secrets", "Manage generated client and cookie secrets."),
    ("serve", "Serve /auth/logout using settings from the environment."),
    ("validate", "Validate the stack declaration without generating anything.")]

def secrets : Description where
  words := program ++ " secrets"
  summary := "Manage generated client and cookie secrets."
  commands := [
    ("ensure", "Generate any missing secret; existing ones are kept."),
    ("rotate", "Regenerate secrets; compile again to apply them.")]

/-- A command of a group with its options. -/
def command (group : Description) (name : String) (options : List OptionSpec) : Description where
  words := group.words ++ " " ++ name
  summary := (group.commands.lookup name).getD ""
  options := options

/-! ## Reading -/

/-- The arguments of a command or a group, unless help is asked for. -/
def read (d : Description) (args : List String) : Except Halt Arguments :=
  match Arguments.read d.allOptions (!d.isGroup) args with
  | .error e => .error (.usage d e)
  | .ok a => if a.given "--help" then .error (.help d) else .ok a

/-- The arguments of a command, which takes nothing but options. -/
def readOptions (d : Description) (args : List String) : Except Halt Arguments := do
  let a ← d.read args
  if a.rest.isEmpty then return a else throw (.usage d (.unexpectedArguments a.rest))

/-- The value of an option that names a directory, which must not be a file. -/
def directory (d : Description) (isFile : FileTest) (a : Arguments) (name : String) :
    Except Halt (Option String) :=
  match a.value? name with
  | none => .ok none
  | some v =>
    match isFile v with
    | .ok true => .error (.usage d (.isFile name v))
    | .ok false => .ok (some v)
    | .error f => .error (.failed f)

/-- The value of an option that is an integer. -/
def integer (d : Description) (a : Arguments) (name : String) (default : Int) :
    Except Halt Int :=
  match a.value? name with
  | none => .ok default
  | some v =>
    match Text.integer? v with
    | some n => .ok n
    | none => .error (.usage d (.notInteger name v))

/-- The arguments of a group, which must not be called without any. -/
def readGroup (d : Description) (args : List String) : Except Halt Arguments :=
  if args.isEmpty then .error (.listing d) else d.read args

/-- The name of a command of a group, and what follows it. What does not start with a command is
read once more by the group, so that options are told from unknown names. -/
def choose (d : Description) (readAgain : List String → Except Halt Unit) (rest : List String) :
    Except Halt (String × List String) := do
  match rest with
  | [] => throw (.usage d .missingCommand)
  | name :: args =>
    let names := d.commands.map (·.1)
    if names.contains name then return (name, args)
    else
      readAgain rest
      throw (.usage d (.noSuchCommand name (Text.Similarity.closest name names)))

end Description

/-! ## Up to the name of the command -/

/-- The options before the name of the command. -/
structure Globals where
  debug : Bool := false
  stack : Option String := none
  root : Option String := none
  deriving DecidableEq, Repr

/-- The options before the name of the command, and what follows them. -/
def Globals.readOptions (isFile : FileTest) (args : List String) :
    Except Halt (Globals × List String) := do
  let d := Description.root
  let a ← d.readGroup args
  let root ← d.directory isFile a "--project-root"
  return ({ debug := a.given "--debug", stack := a.value? "--stack", root }, a.rest)

/-- The options before the name of the command, the name, and what follows it. -/
def Globals.read (isFile : FileTest) (args : List String) :
    Except Halt (Globals × String × List String) := do
  let (g, rest) ← Globals.readOptions isFile args
  let again (rest : List String) : Except Halt Unit := do
    let _ ← Globals.readOptions isFile rest
  let (name, rest) ← Description.root.choose again rest
  return (g, name, rest)

/-- The name of the stack: an empty one does not count, and the environment may name it. -/
def Globals.stackName (g : Globals) (env : Environment) : String :=
  match g.stack.filter (!·.isEmpty) with
  | some s => s
  | none => (env.get? "STACKGEN_STACK").getD "local"

def Globals.projectRoot (g : Globals) (env : Environment) : String :=
  g.root.getD ((env.get? "STACKGEN_PROJECT_ROOT").getD ".")

/-! ## From the name of the command -/

/-- The command of the group of secrets. -/
def Command.readSecrets (args : List String) : Except Halt Command := do
  let d := Description.secrets
  let a ← d.readGroup args
  let again (rest : List String) : Except Halt Unit := do
    let _ ← d.read rest
  let (name, rest) ← d.choose again a.rest
  match name with
  | "rotate" =>
    let service : OptionSpec := { name := "--service", purpose := "Rotate only this service" }
    let a ← (d.command name [service]).readOptions rest
    return .rotateSecrets (a.value? "--service")
  | _ =>
    let _ ← (d.command name []).readOptions rest
    return .ensureSecrets

/-- The command of a name with its arguments. -/
def Command.read (isFile : FileTest) (name : String) (args : List String) :
    Except Halt Command := do
  let d := Description.root.command name
  match name with
  | "init" =>
    let a ← (d [{ name := "--force", value := .none
                  purpose := "Overwrite an existing config file" }]).readOptions args
    return .init (a.given "--force")
  | "compile" =>
    let d := d [{ name := "--output", value := .directory
                  purpose := "Output directory (defaults to generated/<stack>)" }]
    let a ← d.read args
    let output ← d.directory isFile a "--output"
    if a.rest.isEmpty then return .compile output
    else throw (.usage d (.unexpectedArguments a.rest))
  | "logout-plan" =>
    let a ← (d [{ name := "--unreachable"
                  purpose := "Host to treat as unreachable" }]).readOptions args
    return .logoutPlan (a.values "--unreachable")
  | "serve" =>
    let d := d [{ name := "--host", purpose := "Bind address" },
      { name := "--port", value := .integer, purpose := "Bind port" }]
    let a ← d.read args
    let port ← d.integer a "--port" 3000
    if a.rest.isEmpty then return .serve ((a.value? "--host").getD "0.0.0.0") port
    else throw (.usage d (.unexpectedArguments a.rest))
  | "secrets" => Command.readSecrets args
  | _ =>
    let _ ← (d []).readOptions args
    return .validate

end StackCompiler.CommandLine
