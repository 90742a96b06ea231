import StackCompiler.Failure

/-!
# Environments

An environment gives values to variables. `Environment.inherit` adds values for variables that
have none.
-/

namespace StackCompiler

/-- Variables with their values, each at most once. -/
abbrev Environment := List (String × String)

namespace Environment

def get? (env : Environment) (name : String) : Option String := env.lookup name

/-- The value of a variable unless it is empty. -/
def nonempty? (env : Environment) (name : String) : Option String :=
  (env.get? name).filter (!·.isEmpty)

/-- Whether the system takes the name of a variable. -/
def isName (name : String) : Bool :=
  let cs := name.toList
  !cs.contains '=' && !cs.contains '\x00'

def isValue (value : String) : Bool := !value.toList.contains '\x00'

/-- Sets a variable that has no value yet. -/
def inherit1 (env : Environment) (name value : String) : Except Failure Environment :=
  if (env.get? name).isSome then .ok env
  else if isName name && isValue value then .ok (env ++ [(name, value)])
  else .error .badValue

/-- Sets the variables that have no value yet; an entry without a value sets nothing. -/
def inherit (env : Environment) (entries : List (String × Option String)) :
    Except Failure Environment :=
  entries.foldlM (fun env (name, value?) =>
    match value? with
    | some value => env.inherit1 name value
    | none => .ok env) env

end Environment
end StackCompiler
