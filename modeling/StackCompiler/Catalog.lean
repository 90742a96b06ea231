import StackCompiler.Text.Order

/-!
# The catalog

The services that can be deployed, each with the port that its application listens on.
-/

namespace StackCompiler

/-- The ports of the services that can be deployed, by id. -/
abbrev Catalog := List (String × Int)

namespace Catalog

def builtIn : Catalog := [("demo", 80), ("docs", 80), ("dozzle", 8080), ("logs", 3000)]

def port? (c : Catalog) (id : String) : Option Int := c.lookup id

/-- The ids in the order of code points. -/
def ids (c : Catalog) : List String := Text.sortPlain (c.map (·.1))

end Catalog
end StackCompiler
