import Std.Time.DateTime.Timestamp
import StackCompiler.CommandLine.Run
import StackCompiler.Crypto.Sha256

/-!
# The program

Carries out a command line in the file system: the files that the command may read are put into a
tree, the command runs on it, and the files that it changed are written back.
-/

namespace StackCompiler.Main

open CommandLine

/-! ## The file system -/

/-- What is found at a path. -/
inductive Found where
  | nothing
  | directory
  | file (text : String)

/-- Looks at a path. What cannot be read as a file, though it exists, is taken for a directory. -/
def look (path : String) : IO Found := do
  try
    return .file (← IO.FS.readFile path)
  catch
    | .noFileOrDirectory .. => return .nothing
    | _ => return .directory

/-- The tree with what is found at a path. -/
def addFound (t : Tree) (p : Path) : IO Tree := do
  let place := Place.ofPath p
  match ← look p.text with
  | .nothing => return t
  | .directory => return { t with directories := place :: t.directories }
  | .file text => return { t with files := setEntry place { text } t.files }

/-- The paths to what lies on the way of a path, and the path itself. -/
def stages (p : Path) : List Path :=
  (List.range p.names.length).map fun n => { p with names := p.names.take (n + 1) }

/-- The paths that a command line may read. -/
def pathsOf (env : Environment) (args : List String) : List Path :=
  match Globals.read (fun _ => .ok false) args with
  | .error _ => []
  | .ok (g, name, rest) =>
    let project : Project := ⟨.ofString (g.projectRoot env), g.stackName env⟩
    let output := match Command.read (fun _ => .ok false) name rest with
      | .ok (.compile (some o)) => [Path.ofString o]
      | _ => []
    [project.root, project.configFile, project.secretsFile] ++ output

/-- Makes the directories and writes the files that a tree has and another one has not. -/
def writeChanges (before after : Tree) : IO Unit := do
  after.directories.forM fun place => do
    unless before.isDirectory place do IO.FS.createDirAll place.path.text
  after.files.forM fun (place, f) => do
    if before.file? place ≠ some f then
      let path := place.path
      IO.FS.writeFile path.text f.text
      if f.mode = .ownerOnly then
        let nobody : IO.AccessRight := {}
        IO.setAccessRights path.text ⟨⟨true, true, false⟩, nobody, nobody⟩

/-! ## Chance and time -/

/-- The number that bytes make. -/
def number (bs : List UInt8) : Nat := bs.foldl (fun n b => n * 256 + b.toNat) 0

/-- A sequence of bytes that follows from a seed and a position. -/
def drawn (seed : List UInt8) (purpose : UInt8) (n : Nat) : List UInt8 :=
  Sha256.hash (seed ++ purpose :: Sha256.bigEndian 8 n)

/-- The time in seconds. -/
def now : IO Json := do
  let t ← Std.Time.Timestamp.now
  return .float (.ofRatio false t.toNanosecondsSinceUnixEpoch.val.natAbs 1000000000)

/-! ## The program -/

def variableNames : List String := ["STACKGEN_STACK", "STACKGEN_PROJECT_ROOT"]

def environment : IO Environment :=
  variableNames.filterMapM fun name => return (← IO.getEnv name).map (name, ·)

/-- The number of rounds by which passwords are hashed. -/
def iterations : Nat := 27500

def issueText (i : Issue) : String :=
  let step : Step → String
    | .key name => name
    | .index n => toString n
  ".".intercalate (i.path.map step)

/-- Where the cause of a failure lies. -/
def describe (f : Failure) : String :=
  match f.issues with
  | [] => ""
  | is => "\n".intercalate (is.map issueText)

def setting (seed : List UInt8) : IO Setting := do
  return {
    environment := ← environment
    hashing := { salts := fun i => (drawn seed 1 i).take 16, iterations := iterations }
    created := ← now
    describe }

def run (args : List String) : IO UInt32 := do
  let seed := (← IO.getRandomBytes 32).toList
  let setting ← setting seed
  let tree ← ((pathsOf setting.environment args).flatMap stages).foldlM addFound {}
  let machine : Machine := { tree, choices := fun n => number (drawn seed 0 n) }
  let (outcome, after) := CommandLine.run setting args machine
  writeChanges tree after.tree
  IO.print outcome.output
  IO.eprint outcome.errors
  match outcome.address with
  | some (host, port) =>
    IO.eprintln s!"Error: no listener is available for {host}:{port}"
    return 1
  | none => return outcome.exitCode.toUInt32

end StackCompiler.Main

def main (args : List String) : IO UInt32 := StackCompiler.Main.run args
