import StackCompiler.Stack.Settings
import StackCompiler.Json.Basic

/-!
# Violations

What can be wrong with a declaration. Each violation has a code, a message and the path to the
place where it arises.
-/

namespace StackCompiler

/-- A rule that a declaration does not keep, with the offender. Users are named by their position
and username. -/
inductive Violation where
  | unknownService (id : String) (known : List String)
  | invalidServiceId (id : String)
  | invalidHost (id host : String)
  | reservedHost (id host : String)
  | rolesWithFreeAccess (id : String)
  | proxyWithoutRoles (id : String)
  | inAppWithoutRoles (id : String)
  | userRoleNotAllowed (index : Nat) (username role : String)
  | serviceRoleNotAllowed (id role : String)
  | usersNotAllowed (environment : String)
  | invalidUsername (index : Nat) (username : String)
  | invalidEmail (index : Nat) (username email : String)
  | userWithoutRoles (index : Nat) (username : String)
  | invalidUserRole (index : Nat) (username : String) (roleIndex : Nat) (role : String)
  | invalidRole (index : Nat) (role : String)
  | duplicateHost (host : String) (ids : List String)
  | missingPassword (index : Nat) (username : String)
  | placeholderPassword (index : Nat) (username : String)
  deriving DecidableEq, Repr

namespace Violation

def code : Violation → String
  | unknownService .. => "UNKNOWN_SERVICE"
  | invalidServiceId .. => "INVALID_SERVICE_ID"
  | invalidHost .. => "INVALID_HOST"
  | reservedHost .. => "RESERVED_HOST"
  | rolesWithFreeAccess .. => "AUTH_NONE_WITH_ROLES"
  | proxyWithoutRoles .. => "PROXY_AUTH_WITHOUT_ROLES"
  | inAppWithoutRoles .. => "UI_AUTH_WITHOUT_ROLES"
  | userRoleNotAllowed .. | serviceRoleNotAllowed .. => "ROLE_NOT_IN_ALLOWLIST"
  | usersNotAllowed .. => "USERS_NOT_ALLOWED"
  | invalidUsername .. => "INVALID_USERNAME"
  | invalidEmail .. => "INVALID_EMAIL"
  | userWithoutRoles .. => "USER_NO_ROLES"
  | invalidUserRole .. | invalidRole .. => "INVALID_ROLE_FORMAT"
  | duplicateHost .. => "DUPLICATE_HOST"
  | missingPassword .. => "MISSING_USER_PASSWORD"
  | placeholderPassword .. => "PLACEHOLDER_PASSWORD"

def listed (names : List String) : String := ", ".intercalate names

def message : Violation → String
  | unknownService id known =>
    let names := listed known
    s!"Unknown service {id}. Available services: {names}"
  | invalidServiceId id => s!"Service id '{id}' is not a valid slug"
  | invalidHost id host => s!"Host '{host}' for service {id} is not a valid slug"
  | reservedHost id host =>
    let names := listed reservedHosts
    s!"Host '{host}' for service {id} is reserved (reserved: {names})"
  | rolesWithFreeAccess id => s!"Service {id} has authType none but declares requiredRoles"
  | proxyWithoutRoles id => s!"Service {id} uses proxy-auth but has no requiredRoles"
  | inAppWithoutRoles id => s!"Service {id} uses ui-auth but has no requiredRoles"
  | userRoleNotAllowed _ username role => s!"User {username} references undeclared role '{role}'"
  | serviceRoleNotAllowed id role => s!"Service {id} references undeclared role '{role}'"
  | usersNotAllowed environment =>
    s!"Bootstrap users are only allowed in the '{usersEnvironment}' environment, " ++
      s!"not '{environment}'"
  | invalidUsername _ username => s!"Username '{username}' is not a valid slug"
  | invalidEmail _ username email => s!"Email '{email}' for user {username} is not valid"
  | userWithoutRoles _ username => s!"User {username} has no roles"
  | invalidUserRole _ username _ role => s!"Role '{role}' for user {username} is not a valid slug"
  | invalidRole _ role => s!"Role '{role}' is not a valid slug"
  | duplicateHost host ids =>
    let names := listed ids
    s!"Host '{host}' is used by multiple services: {names}"
  | missingPassword _ username => s!"User {username} has no password"
  | placeholderPassword _ username => s!"User {username} still uses a placeholder password"

/-- The place in the declaration. -/
def path : Violation → String
  | unknownService id _ | invalidServiceId id => s!"services.{id}"
  | invalidHost id _ | reservedHost id _ => s!"services.{id}.host"
  | rolesWithFreeAccess id | proxyWithoutRoles id | inAppWithoutRoles id =>
    s!"services.{id}.authType"
  | userRoleNotAllowed i _ _ | userWithoutRoles i _ => s!"users[{i}].roles"
  | serviceRoleNotAllowed id _ => s!"services.{id}.requiredRoles"
  | usersNotAllowed _ => "users"
  | invalidUsername i _ => s!"users[{i}].username"
  | invalidEmail i _ _ => s!"users[{i}].email"
  | invalidUserRole i _ j _ => s!"users[{i}].roles[{j}]"
  | invalidRole i _ => s!"roles[{i}]"
  | duplicateHost .. => "services"
  | missingPassword i _ | placeholderPassword i _ => s!"users[{i}].password"

/-- The message with its place, as reports show it. -/
def line (v : Violation) : String := s!"{v.message} (at {v.path})"

def toJson (v : Violation) : Json :=
  .obj [("code", .str v.code), ("message", .str v.message), ("path", .str v.path)]

end Violation
end StackCompiler
