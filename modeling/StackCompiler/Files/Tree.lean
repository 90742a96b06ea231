import StackCompiler.Failure
import StackCompiler.Files.Path
import StackCompiler.Json.Basic
import StackCompiler.Text.Split

/-!
# File trees

The files and directories around the working directory, with the access that each file grants. A
path is walked name by name: every name but the last must lead to a directory that exists, even one
that a step back leaves again. Reading a text turns every line end into a line feed.
-/

namespace StackCompiler

/-- Who may read a file. -/
inductive FileMode where
  | everyone
  | ownerOnly
  deriving DecidableEq, Repr

/-- The permission bits of a mode. -/
def FileMode.bits : FileMode → Nat
  | everyone => 0o644
  | ownerOnly => 0o600

structure File where
  text : String
  mode : FileMode := .everyone
  deriving DecidableEq, Repr

/-- Files and directories by their places. -/
structure Tree where
  files : List (Place × File) := []
  directories : List Place := []
  deriving DecidableEq, Repr

namespace Tree

/-! ## Walking -/

def file? (t : Tree) (place : Place) : Option File := t.files.lookup place

/-- The working directory and those above it exist, as does every directory that was made. -/
def isDirectory (t : Tree) (place : Place) : Bool :=
  place.isAbove || t.directories.contains place

def isPresent (t : Tree) (place : Place) : Bool := (t.file? place).isSome || t.isDirectory place

/-- How many bytes a name has at most. -/
def maxNameBytes : Nat := 255

/-- How many bytes a path has at most. -/
def maxPathBytes : Nat := 4095

/-- The place that a name leads to, which need not exist; the place before it must be a
directory. -/
def enter (t : Tree) (p : Path) (place : Place) (name : String) : Except Failure Place :=
  if (t.file? place).isSome then .error (.notDirectory p.text)
  else if !t.isDirectory place then .error (.noSuchFile p.text)
  else if maxNameBytes < name.utf8ByteSize then .error (.nameTooLong p.text)
  else .ok (place.step name)

/-- The place that a path leads to, which need not exist. -/
def walk (t : Tree) (p : Path) : Except Failure Place :=
  if p.text.toList.contains '\x00' then .error .badValue
  else if maxPathBytes < p.text.utf8ByteSize then .error (.nameTooLong p.text)
  else p.names.foldlM (t.enter p) (.start p)

/-- Whether something is at a path. A path that is too long is a failure; one that cannot be walked
leads to nothing. -/
def contains (t : Tree) (p : Path) : Except Failure Bool :=
  match t.walk p with
  | .ok place => .ok (t.isPresent place)
  | .error (.nameTooLong path) => .error (.nameTooLong path)
  | .error _ => .ok false

/-- Whether a path leads to a file. -/
def isFile (t : Tree) (p : Path) : Bool :=
  match t.walk p with
  | .ok place => (t.file? place).isSome
  | .error _ => false

/-! ## Files -/

/-- The text of a file. -/
def read (t : Tree) (p : Path) : Except Failure String := do
  let place ← t.walk p
  if t.isDirectory place then throw (.isDirectory p.text)
  match t.file? place with
  | some f => return String.ofList (Text.plainLineEnds f.text.toList)
  | none => throw (.noSuchFile p.text)

/-- Puts a text into a file. A new file can be read by everyone, an existing one keeps its mode. -/
def write (t : Tree) (p : Path) (text : String) : Except Failure Tree := do
  let place ← t.walk p
  if t.isDirectory place then throw (.isDirectory p.text)
  let mode := ((t.file? place).map (·.mode)).getD .everyone
  return { t with files := setEntry place { text, mode } t.files }

def setMode (t : Tree) (p : Path) (mode : FileMode) : Except Failure Tree := do
  let place ← t.walk p
  match t.file? place with
  | some f => return { t with files := setEntry place { f with mode } t.files }
  | none => return t

/-! ## Directories -/

/-- Makes one directory, where nothing is yet. -/
def makeOne (t : Tree) (p : Path) : Except Failure Tree := do
  let place ← t.walk p
  if t.isPresent place then throw (.directoryExists p.text)
  return { t with directories := t.directories ++ [place] }

/-- Makes one directory unless there is one. -/
def makeOneOrKeep (t : Tree) (p : Path) : Except Failure Tree :=
  match t.makeOne p with
  | .error f =>
    match t.walk p with
    | .ok place => if t.isDirectory place then .ok t else .error f
    | .error _ => .error f
  | made => made

/-- Makes a directory unless there is one, after those above it where they are missing. Each step
goes up by one name, so that as many steps as names suffice. -/
def makeAll : Nat → Tree → Path → Except Failure Tree
  | 0, t, p => t.makeOneOrKeep p
  | n + 1, t, p =>
    match t.makeOneOrKeep p with
    | .error (.noSuchFile _) => do (← makeAll n t p.parent).makeOneOrKeep p
    | result => result

def makeDirectory (t : Tree) (p : Path) : Except Failure Tree := makeAll p.names.length t p

/-- The tree with a file added, and with the directories above it. -/
def add (t : Tree) (path : String) (text : String) : Tree :=
  let p := Path.ofString path
  match (t.makeDirectory p.parent).bind (·.write p text) with
  | .ok t => t
  | .error _ => t

/-! ## Listing -/

/-- Whether a place is below the working directory. -/
def isInside (place : Place) : Bool := place.head? ≠ some ".." && place.head? ≠ some "/"

/-- The paths of all files below the working directory with their modes, in the order of the
paths. -/
def listing (t : Tree) : List (String × FileMode) :=
  let inside := t.files.filter fun (place, _) => isInside place
  (inside.map fun (place, f) => ("/".intercalate place, f.mode)).mergeSort
    fun a b => (compare a.1 b.1).isLE

end Tree
end StackCompiler
