import StackCompiler.Crypto.KeyDerivation
import StackCompiler.Encoding.Base64
import StackCompiler.Encoding.Utf8
import StackCompiler.Failure
import StackCompiler.Json.Printer
import StackCompiler.Stack.Declaration

/-!
# Stored credentials

A user's password is stored as the key derived from it, with everything that a verifier needs: the
salt, the number of iterations and the algorithm.
-/

namespace StackCompiler

/-- A stored password: two JSON texts, one with the derived key and one with how it was derived. -/
structure Credential where
  type : String := "password"
  secretData : String
  credentialData : String
  temporary : Bool := false
  deriving DecidableEq, Repr

namespace Credential

def decode (fs : Decode.Fields) : Decoded Credential :=
  Credential.mk
    <$> Decode.optional fs (.plain "type") "password" Decode.text
    <*> Decode.required fs ⟨"secretData", "secret_data"⟩ Decode.text
    <*> Decode.required fs ⟨"credentialData", "credential_data"⟩ Decode.text
    <*> Decode.optional fs (.plain "temporary") false Decode.bool

def toJson (c : Credential) : Json :=
  .obj [
    ("type", .str c.type),
    ("secretData", .str c.secretData),
    ("credentialData", .str c.credentialData),
    ("temporary", .bool c.temporary)]

def algorithm : String := "pbkdf2-sha256"

/-- The salt and the number of iterations of a derivation. -/
structure Derivation where
  salt : List UInt8
  iterations : Int := 27500

def secretJson (d : Derivation) (key : List UInt8) : Json :=
  .obj [
    ("value", .str (Base64.encode .standard key)),
    ("salt", .str (Base64.encode .standard d.salt)),
    ("additionalParameters", .obj [])]

def derivationJson (d : Derivation) : Json :=
  .obj [
    ("hashIterations", .int d.iterations),
    ("algorithm", .str algorithm),
    ("additionalParameters", .obj [])]

/-- The credential of a password. The number of iterations must be positive and fit a word of 64
bits. -/
def ofPassword (d : Derivation) (password : String) : Except Failure Credential :=
  if d.iterations < 0 ∨ (Nat.pow 2 64 : Int) ≤ d.iterations then .error .outOfRange
  else if d.iterations = 0 then .error .badValue
  else
    let key := Pbkdf2.derive (Utf8.encode password) d.salt d.iterations.toNat
    .ok {
      secretData := (secretJson d key).write .spaced
      credentialData := (derivationJson d).write .spaced }

end Credential

/-- How the passwords of a declaration are stored: the salt of each user, by position, and the
number of iterations. -/
structure Hashing where
  salts : Nat → List UInt8
  iterations : Int := 27500

def Hashing.derivation (h : Hashing) (index : Nat) : Credential.Derivation :=
  ⟨h.salts index, h.iterations⟩

/-- The credential of a user, who needs a password. -/
def UserEntry.credential (derivation : Credential.Derivation) (u : UserEntry) :
    Except Failure Credential :=
  let password := u.password.getD ""
  if password.isEmpty then .error (.missingSecret (.password u.username))
  else Credential.ofPassword derivation password

/-- The credential of each user, in the order of the users. -/
def Declaration.credentials (hashing : Hashing) (d : Declaration) :
    Except Failure (List (String × Credential)) :=
  d.users.zipIdx.mapM fun (u, i) => (u.credential (hashing.derivation i)).map (u.username, ·)

end StackCompiler
