import StackCompiler.Data.Decode
import StackCompiler.Json.Printer
import StackCompiler.Stack.Access

/-!
# Descriptors

The public catalog of the deployed services that the portal shows. It holds no secrets.
-/

namespace StackCompiler

namespace Descriptor

/-- A service as the portal shows it; only guarded services name their roles. -/
structure Entry where
  id : String
  name : String
  url : String
  isProtected : Bool
  access : Access
  group : Option String := none
  icon : Option String := none
  description : Option String := none
  roles : Option (List String) := none
  deriving DecidableEq, Repr

/-- Where the identity provider is found. -/
structure IdentityProvider where
  publicUrl : String
  issuerUrl : String
  realm : String
  deriving DecidableEq, Repr

/-- The version of descriptors. -/
def currentVersion : String := "1"

end Descriptor

structure Descriptor where
  version : String
  deploymentId : String
  environment : String
  baseDomain : String
  portalUrl : String
  identityProvider : Descriptor.IdentityProvider
  services : List Descriptor.Entry := []
  deriving DecidableEq, Repr

namespace Descriptor

/-! ## Reading -/

def Entry.decode (fs : Decode.Fields) : Decoded Entry :=
  let text (name : String) : Decoded String := Decode.required fs (.plain name) Decode.text
  let note (name : String) : Decoded (Option String) := Decode.maybe fs (.plain name) Decode.text
  Entry.mk
    <$> text "id"
    <*> text "name"
    <*> text "url"
    <*> Decode.required fs (.plain "protected") Decode.bool
    <*> Decode.required fs ⟨"authType", "auth_type"⟩ Access.decode
    <*> note "group"
    <*> note "icon"
    <*> note "description"
    <*> Decode.maybe fs ⟨"requiredRoles", "required_roles"⟩ (Decode.list Decode.text)

def decodeFrontend (fs : Decode.Fields) : Decoded String :=
  Decode.required fs ⟨"publicUrl", "public_url"⟩ Decode.text

def IdentityProvider.decode (fs : Decode.Fields) : Decoded IdentityProvider :=
  IdentityProvider.mk
    <$> Decode.required fs ⟨"publicUrl", "public_url"⟩ Decode.text
    <*> Decode.required fs ⟨"issuerUrl", "issuer_url"⟩ Decode.text
    <*> Decode.required fs (.plain "realm") Decode.text

def decode (fs : Decode.Fields) : Decoded Descriptor :=
  Descriptor.mk
    <$> Decode.required fs (.plain "version") Decode.text
    <*> Decode.required fs ⟨"deploymentId", "deployment_id"⟩ Decode.text
    <*> Decode.required fs (.plain "environment") Decode.text
    <*> Decode.required fs ⟨"baseDomain", "base_domain"⟩ Decode.text
    <*> Decode.required fs (.plain "frontend") (Decode.record decodeFrontend)
    <*> Decode.required fs ⟨"identityProvider", "identity_provider"⟩
      (Decode.record IdentityProvider.decode)
    <*> Decode.optional fs (.plain "services") [] (Decode.list (Decode.record Entry.decode))

/-! ## Writing -/

/-- A member that is left out where there is no value. -/
def optionalMember (name : String) (v? : Option Json) : List (String × Json) :=
  match v? with
  | some v => [(name, v)]
  | none => []

def Entry.toJson (e : Entry) : Json :=
  .obj (
    [("id", .str e.id),
     ("name", .str e.name),
     ("url", .str e.url),
     ("protected", .bool e.isProtected),
     ("authType", e.access.toJson)] ++
    optionalMember "group" (e.group.map .str) ++
    optionalMember "icon" (e.icon.map .str) ++
    optionalMember "description" (e.description.map .str) ++
    optionalMember "requiredRoles" (e.roles.map .ofStrs))

def IdentityProvider.toJson (p : IdentityProvider) : Json :=
  .obj [
    ("publicUrl", .str p.publicUrl),
    ("issuerUrl", .str p.issuerUrl),
    ("realm", .str p.realm)]

def toJson (d : Descriptor) : Json :=
  .obj [
    ("version", .str d.version),
    ("deploymentId", .str d.deploymentId),
    ("environment", .str d.environment),
    ("baseDomain", .str d.baseDomain),
    ("frontend", .obj [("publicUrl", .str d.portalUrl)]),
    ("identityProvider", d.identityProvider.toJson),
    ("services", .arr (d.services.map Entry.toJson))]

/-- The services with a sidecar, in the order of the descriptor: those that a sign-out visits. -/
def workList (d : Descriptor) : List Entry := d.services.filter (·.access == .proxy)

end Descriptor
end StackCompiler
