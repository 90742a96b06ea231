import StackCompiler.Secrets.Bundle
import StackCompiler.Stack.Project

/-!
# The secrets store

The secrets of a stack are kept in a file that its owner alone may read. `Secrets.ensure` adds what
is missing and changes nothing else; `Secrets.rotate` makes new secrets for one service or for all.
-/

namespace StackCompiler.Secrets

open Machine

def logger : String := "stackgen.services.credentials_service"

def said (level : Log.Level) (message : String) : Action Unit :=
  Session.note ⟨level, logger, message, none, none, none⟩

/-! ## Generated values -/

/-- What generated secrets are made of. -/
def alphabet : List Char :=
  "abcdefghijklmnopqrstuvwxyzABCDEFGHIJKLMNOPQRSTUVWXYZ0123456789".toList

/-- The character of a random choice. -/
def letter (choice : Nat) : Char := alphabet.getD (choice % alphabet.length) 'a'

/-- How long generated secrets are. -/
def valueLength : Nat := 32

def generateChars : Nat → Action (List Char)
  | 0 => pure []
  | n + 1 => do
    let c := letter (← choose)
    return c :: (← generateChars n)

def generate (length : Nat := valueLength) : Action String :=
  return String.ofList (← generateChars length)

/-! ## The file -/

/-- The stored secrets; where nothing is stored there are none. -/
def load (path : Path) : Action Secrets := do
  if ← exists? path then
    match ← Project.readDocument (.secretsUnreadable path.text) path with
    | .map fields =>
      Session.ofExcept do (Secrets.decode (← StackFile.named fields)).toExcept .rejected
    | _ => throw .wrongType
  else return {}

def save (path : Path) (s : Secrets) : Action Unit := do
  makeDirectory path.parent
  write path (Yaml.write s.toData)
  setMode path .ownerOnly
  said .info s!"Saved secrets to {path.text}"

/-! ## Operations -/

/-- Whether a mapping has a value for an id that is not empty. -/
def hasValue (entries : List (String × String)) (id : String) : Bool :=
  !((entries.lookup id).getD "").isEmpty

/-- The mapping with a value for an id; a new one is generated if there is none. -/
def fill (entries : List (String × String)) (id : String) : Action (List (String × String)) := do
  if hasValue entries id then return entries
  else return setEntry id (← generate) entries

/-- Both secrets of a service, generated where they are missing. -/
def fillService (s : Secrets) (id : String) : Action Secrets := do
  let clientSecrets ← fill s.clientSecrets id
  let cookieSecrets ← fill s.cookieSecrets id
  return { s with clientSecrets, cookieSecrets }

def fillPortal (s : Secrets) : Action Secrets := do
  if s.portalClientSecret.isEmpty then return { s with portalClientSecret := ← generate }
  else return s

/-- Whether nothing has to be generated for the portal and some services. -/
def isComplete (s : Secrets) (ids : List String) : Bool :=
  !s.portalClientSecret.isEmpty &&
    ids.all fun id => hasValue s.clientSecrets id && hasValue s.cookieSecrets id

/-- The stored secrets, with those of the portal and the given services generated where they are
missing. The file is written only if something was generated. -/
def ensure (path : Path) (ids : List String) : Action Secrets := do
  let stored ← load path
  if stored.isComplete ids then
    said .debug s!"Reusing existing secrets from {path.text}"
    return stored
  let s ← ids.foldlM fillService (← fillPortal stored)
  save path s
  return s

/-- Both secrets of a service, generated anew. -/
def renewService (s : Secrets) (id : String) : Action Secrets := do
  let clientSecrets := setEntry id (← generate) s.clientSecrets
  let cookieSecrets := setEntry id (← generate) s.cookieSecrets
  return { s with clientSecrets, cookieSecrets }

/-- Generates the secrets of one service anew, or those of the portal and of all services that have
a client secret. -/
def rotate (path : Path) (id : Option String) : Action Secrets := do
  let stored ← load path
  let s ← match id with
    | some id => renewService stored id
    | none =>
      let renewed := { stored with portalClientSecret := ← generate }
      (stored.clientSecrets.map (·.1)).foldlM renewService renewed
  save path s
  let whose := orElse id "all services"
  said .info s!"Rotated secrets for {whose}"
  return s
where
  /-- A text that is given and not empty, or else another one. -/
  orElse (given : Option String) (other : String) : String :=
    match given with
    | some t => if t.isEmpty then other else t
    | none => other

end StackCompiler.Secrets
