import StackCompiler.Data.Decode

/-!
# Kinds of access

A service is free to all, guarded by a sidecar in front of it, or guarded by itself.
-/

namespace StackCompiler

/-- How access to a service is enforced. -/
inductive Access where
  | free
  | proxy
  | inApp
  deriving DecidableEq, Repr

namespace Access

/-- The written form. -/
def word : Access → String
  | free => "none"
  | proxy => "proxy-auth"
  | inApp => "ui-auth"

def words : List (String × Access) := [free, proxy, inApp].map fun a => (a.word, a)

def decode : Data → Decoded Access := Decode.member words

/-- The kind taken where none is declared: a service that names roles is guarded by a sidecar. -/
def ofRoles (roles : List String) : Access := if roles.isEmpty then free else proxy

def toJson (a : Access) : Json := .str a.word

end Access
end StackCompiler
