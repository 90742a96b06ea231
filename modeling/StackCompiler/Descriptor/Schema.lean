import StackCompiler.Schema.Basic
import StackCompiler.Stack.Access

/-!
# The schema of the portal's descriptor

Version 1 of the public catalog of deployed services.
-/

namespace StackCompiler.Descriptor

def slugText : Schema := .all [.kind .string, .form .slug]

def urlText : Schema := .all [.kind .string, .form .httpUrl]

def filledText : Schema := .all [.kind .string, .someText]

def someRoles : Schema := .all [.kind .array, .someItem, .items slugText]

/-- An object with the members given and no others. -/
def closedObject (names : List String) (parts : List (String × Schema)) : Schema :=
  .all [.kind .object, .onlyMembers (parts.map (·.1)), .requires names, .members parts]

/-- A free service is not protected and names no roles. -/
def freeRule : Schema :=
  .implies (.members [("authType", .equalsText Access.free.word)])
    (.all [.members [("protected", .equals false)], .forbids ["requiredRoles"]])

/-- A guarded service is protected and names its roles. -/
def guardedRule : Schema :=
  .implies (.members [("authType", .oneOf [Access.proxy.word, Access.inApp.word])])
    (.all [.members [("protected", .equals true)], .requires ["requiredRoles"]])

def entrySchema : Schema :=
  .all [
    closedObject ["id", "name", "url", "protected", "authType"] [
      ("id", slugText),
      ("name", filledText),
      ("url", urlText),
      ("protected", .kind .boolean),
      ("authType", .oneOf (Access.words.map (·.1))),
      ("group", filledText),
      ("icon", filledText),
      ("description", .kind .string),
      ("requiredRoles", someRoles)],
    freeRule,
    guardedRule]

def schema : Schema :=
  closedObject
    ["version", "deploymentId", "environment", "baseDomain", "frontend", "identityProvider",
      "services"] [
    ("version", .equalsText "1"),
    ("deploymentId", slugText),
    ("environment", slugText),
    ("baseDomain", filledText),
    ("frontend", closedObject ["publicUrl"] [("publicUrl", urlText)]),
    ("identityProvider", closedObject ["publicUrl", "issuerUrl", "realm"] [
      ("publicUrl", urlText),
      ("issuerUrl", urlText),
      ("realm", filledText)]),
    ("services", .all [.kind .array, .items entrySchema])]

end StackCompiler.Descriptor
