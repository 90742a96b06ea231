/-!
# Runs of code points

Character properties are tables of runs. `Run.contains` decides membership in one run and `inRuns`
in a table; `Shift.moved?` moves a code point by the offset of the run it lies in.
-/

namespace StackCompiler.Text

/-- Every `step`-th code point from `first` to `last`. -/
structure Run where
  first : Nat
  last : Nat
  step : Nat
  deriving DecidableEq, Repr

def Run.contains (r : Run) (n : Nat) : Bool :=
  r.first ≤ n && n ≤ r.last && (n - r.first) % r.step == 0

/-- A run whose members all move by `offset`. -/
structure Shift where
  run : Run
  offset : Int
  deriving DecidableEq, Repr

def Shift.moved? (s : Shift) (n : Nat) : Option Nat :=
  if s.run.contains n then some ((n : Int) + s.offset).toNat else none

def inRuns (rs : List Run) (c : Char) : Bool :=
  rs.any (·.contains c.toNat)

/-- The image of a character under a table of shifts and a table of expansions; a character in
neither is its own image. -/
def image (shifts : List Shift) (expansions : List (Nat × List Nat)) (c : Char) : List Char :=
  match expansions.lookup c.toNat with
  | some ns => ns.map Char.ofNat
  | none =>
    match shifts.findSome? (·.moved? c.toNat) with
    | some n => [Char.ofNat n]
    | none => [c]

end StackCompiler.Text
