import StackCompiler.Number.Binary64

/-!
# JSON values

The members of an object keep their order. `setEntry` sets a member in place, so that of two members
of one name the later value stands at the earlier place.
-/

namespace StackCompiler

/-- A JSON value; numbers written without a fraction or an exponent are integers of any size. -/
inductive Json where
  | null
  | bool (b : Bool)
  | int (n : Int)
  | float (x : Binary64)
  | str (s : String)
  | arr (items : List Json)
  | obj (members : List (String × Json))
  deriving Repr, Inhabited

/-- Sets the entry of a key in place, or adds it at the end. -/
def setEntry [BEq κ] (key : κ) (value : α) : List (κ × α) → List (κ × α)
  | [] => [(key, value)]
  | (k, v) :: rest =>
    if k == key then (k, value) :: rest else (k, v) :: setEntry key value rest

/-- The entries with each key once, at its first place and with its last value. -/
def dedupEntries [BEq κ] (entries : List (κ × α)) : List (κ × α) :=
  entries.foldl (fun acc (k, v) => setEntry k v acc) []

namespace Json

/-- The members of an object. -/
def members? : Json → Option (List (String × Json))
  | obj ms => some ms
  | _ => none

/-- A member of an object. -/
def get? (name : String) : Json → Option Json
  | obj ms => ms.lookup name
  | _ => none

def ofOption (f : α → Json) : Option α → Json
  | some a => f a
  | none => null

def ofStr? : Option String → Json := ofOption str

def ofStrs (xs : List String) : Json := arr (xs.map str)

def ofNat (n : Nat) : Json := int n

end Json
end StackCompiler
