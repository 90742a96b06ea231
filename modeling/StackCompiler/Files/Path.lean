/-!
# Paths

A path is a list of names below a starting point. Paths are kept in normal form: without empty
names and without names that stay in place. Steps back are kept, because what they lead to depends
on the directories before them; `Place.parent` is where they lead.
-/

namespace StackCompiler

structure Path where
  /-- The slashes that the path starts with: none for a path below the working directory. -/
  root : String := ""
  names : List String := []
  deriving DecidableEq, Repr

namespace Path

/-- A name that leads somewhere else. -/
def isProper (name : String) : Bool := name != "" && name != "."

/-- The slashes at the start of a path; only two of them differ from one. -/
def rootOf (s : String) : String :=
  match s.toList.takeWhile (· == '/') with
  | [] => ""
  | [_, _] => "//"
  | _ => "/"

/-- The normal form of a written path. -/
def ofString (s : String) : Path := { root := rootOf s, names := (s.splitOn "/").filter isProper }

def text (p : Path) : String :=
  let inner := "/".intercalate p.names
  if p.root.isEmpty && p.names.isEmpty then "." else p.root ++ inner

/-- The path that a text names below another one; a path with a root of its own stands for
itself. -/
def join (p : Path) (s : String) : Path :=
  let q := ofString s
  if q.root.isEmpty then { p with names := p.names ++ q.names } else q

/-- The directory that holds a path. -/
def parent (p : Path) : Path := { p with names := p.names.dropLast }

/-- Whether a written path can only name a directory. -/
def isDirectoryText (s : String) : Bool := !isProper ((s.splitOn "/").getLastD "")

end Path

/-- A file or a directory by the names that lead to it, without steps back except at the start. The
root of the file system is the name `/`. -/
abbrev Place := List String

namespace Place

/-- The working directory. -/
def here : Place := []

def root : Place := ["/"]

/-- Whether a place is the working directory or above it, or the root. -/
def isAbove (p : Place) : Bool := p.all (· == "..") || p == root

/-- The directory that holds a place; the root holds itself. -/
def parent (p : Place) : Place :=
  if p == root then root else if p.all (· == "..") then p ++ [".."] else p.dropLast

/-- The place that a name leads to from a directory. -/
def step (p : Place) (name : String) : Place := if name = ".." then p.parent else p ++ [name]

/-- Where a path starts. -/
def start (p : Path) : Place := if p.root.isEmpty then here else root

/-- The place of a path, if all directories on the way exist. -/
def ofPath (p : Path) : Place := p.names.foldl step (start p)

/-- The path that leads to a place. -/
def path (p : Place) : Path :=
  match p with
  | "/" :: rest => { root := "/", names := rest }
  | _ => { names := p }

end Place
end StackCompiler
