import StackCompiler.Deployment.Basic
import StackCompiler.Text.Order

/-!
# Access policies

Each service with a sidecar has a policy: the host it is reached under and the roles that may pass.
-/

namespace StackCompiler

structure Policy where
  id : String
  host : String
  roles : List String
  deriving DecidableEq, Repr

namespace Policy

def decode (fs : Decode.Fields) : Decoded Policy :=
  Policy.mk
    <$> Decode.required fs (.plain "service_id") Decode.text
    <*> Decode.required fs (.plain "host") Decode.text
    <*> Decode.required fs (.plain "required_roles") (Decode.list Decode.text)

def toJson (p : Policy) : Json :=
  .obj [
    ("service_id", .str p.id),
    ("host", .str p.host),
    ("required_roles", .ofStrs p.roles)]

def ofService (s : Service) : Policy := ⟨s.id, s.host, s.roles⟩

/-- The roles as the sidecar reads them, in the declared order. -/
def groups (roles : List String) : String := ",".intercalate roles

end Policy

namespace Deployment

/-- The policies of a deployment, in the order of ids. -/
def policies (d : Deployment) : List Policy :=
  Text.sortById (·.id) ((d.services.filter (·.hasSidecar)).map Policy.ofService)

/-- The ids of the services with a sidecar. -/
def guardedIds (d : Deployment) : List String := d.policies.map (·.id)

end Deployment
end StackCompiler
