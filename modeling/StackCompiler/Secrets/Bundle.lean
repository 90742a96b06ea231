import StackCompiler.Data.Decode

/-!
# Secrets

The generated secrets of a stack: one for the portal's client and two for each sidecar.
-/

namespace StackCompiler

/-- Client and cookie secrets are kept by service id. -/
structure Secrets where
  portalClientSecret : String := ""
  clientSecrets : List (String × String) := []
  cookieSecrets : List (String × String) := []
  deriving DecidableEq, Repr

namespace Secrets

def decode (fs : Decode.Fields) : Decoded Secrets :=
  Secrets.mk
    <$> Decode.optional fs (.plain "portal_client_secret") "" Decode.text
    <*> Decode.optional fs (.plain "client_secrets") [] (Decode.mapping Decode.text)
    <*> Decode.optional fs (.plain "cookie_secrets") [] (Decode.mapping Decode.text)

def textMembers (entries : List (String × String)) : Json :=
  .obj (entries.map fun (k, v) => (k, .str v))

def toJson (s : Secrets) : Json :=
  .obj [
    ("portal_client_secret", .str s.portalClientSecret),
    ("client_secrets", textMembers s.clientSecrets),
    ("cookie_secrets", textMembers s.cookieSecrets)]

/-- The secrets as data, every mapping in the order of its keys. -/
def toData (s : Secrets) : Data :=
  let sorted (entries : List (String × String)) : Data :=
    .record ((entries.mergeSort fun a b => (compare a.1 b.1).isLE).map fun (k, v) => (k, .str v))
  .record [
    ("client_secrets", sorted s.clientSecrets),
    ("cookie_secrets", sorted s.cookieSecrets),
    ("portal_client_secret", .str s.portalClientSecret)]

end Secrets
end StackCompiler
