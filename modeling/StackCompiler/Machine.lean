import StackCompiler.Files.Tree
import StackCompiler.Session

/-!
# The machine

What commands act on: a file tree, and a source of random choices of which some have been taken.
-/

namespace StackCompiler

structure Machine where
  tree : Tree
  /-- The choices of the random source, in the order in which they are taken. -/
  choices : Nat → Nat
  taken : Nat := 0

namespace Machine

abbrev Action := Session Machine

def currentTree : Action Tree := return (← Session.state).tree

/-- Replaces the tree by what an operation makes of it. -/
def changeTree (f : Tree → Except Failure Tree) : Action Unit := do
  let m ← Session.state
  let tree ← Session.ofExcept (f m.tree)
  Session.setState { m with tree }

def exists? (p : Path) : Action Bool := do Session.ofExcept ((← currentTree).contains p)

def read (p : Path) : Action String := do Session.ofExcept ((← currentTree).read p)

def write (p : Path) (text : String) : Action Unit := changeTree (·.write p text)

def makeDirectory (p : Path) : Action Unit := changeTree (·.makeDirectory p)

def setMode (p : Path) (mode : FileMode) : Action Unit := changeTree (·.setMode p mode)

/-- The next random choice. -/
def choose : Action Nat := do
  let m ← Session.state
  Session.setState { m with taken := m.taken + 1 }
  return m.choices m.taken

end Machine
end StackCompiler
