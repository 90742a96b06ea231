import StackCompiler.Deployment.Resolve
import StackCompiler.Deployment.Violation

/-!
# Validation

Every rule on a declaration, checked on the deployment that it resolves to. All violations are
reported, rule by rule.
-/

namespace StackCompiler

namespace Deployment

/-! ## Services -/

def unknownServices (known : List String) (d : Deployment) : List Violation :=
  d.services.filterMap fun s =>
    if known.contains s.id then none else some (.unknownService s.id known)

/-- The services and hosts that are no slugs. -/
def invalidNames (d : Deployment) : List Violation :=
  d.services.flatMap fun s =>
    (if Text.isSlug s.id then [] else [.invalidServiceId s.id]) ++
      (if Text.isSlug s.host then [] else [.invalidHost s.id s.host])

def claimedHosts (d : Deployment) : List Violation :=
  d.services.filterMap fun s =>
    if reservedHosts.contains s.host then some (.reservedHost s.id s.host) else none

/-- The services whose kind of access does not fit their roles. -/
def unfitAccess (d : Deployment) : List Violation :=
  d.services.filterMap fun s =>
    match s.access, s.roles.isEmpty with
    | .free, false => some (.rolesWithFreeAccess s.id)
    | .proxy, true => some (.proxyWithoutRoles s.id)
    | .inApp, true => some (.inAppWithoutRoles s.id)
    | _, _ => none

/-! ## Roles -/

/-- The roles that are mentioned and not among the declared ones. -/
def rolesNotAllowed (d : Deployment) : List Violation :=
  if d.rolesExplicit then
    let unlisted (roles : List String) : List String := roles.filter fun r => !d.roles.contains r
    (d.users.zipIdx.flatMap fun (u, i) =>
      (unlisted u.roles).map fun r => .userRoleNotAllowed i u.username r) ++
    d.services.flatMap fun s => (unlisted s.roles).map fun r => .serviceRoleNotAllowed s.id r
  else []

/-! ## Users -/

def userViolations (index : Nat) (u : User) : List Violation :=
  (if Text.isSlug u.username then [] else [.invalidUsername index u.username]) ++
  (if Text.isEmail u.email then [] else [.invalidEmail index u.username u.email]) ++
  (if u.roles.isEmpty then [.userWithoutRoles index u.username] else []) ++
  u.roles.zipIdx.filterMap fun (r, j) =>
    if Text.isSlug r then none else some (.invalidUserRole index u.username j r)

def invalidUsers (d : Deployment) : List Violation :=
  (if d.users.isEmpty || d.environment == usersEnvironment then []
    else [.usersNotAllowed d.environment]) ++
  d.users.zipIdx.flatMap fun (u, i) => userViolations i u

/-! ## Hosts -/

/-- The ids of the services on a host, in their order. -/
def owners (d : Deployment) (host : String) : List String :=
  (d.services.filter (·.host == host)).map (·.id)

/-- The hosts of the services, each once. -/
def hosts (d : Deployment) : List String := (d.services.map (·.host)).eraseDups

/-- The hosts of more than one service, in the order of ids. -/
def sharedHosts (d : Deployment) : List Violation :=
  (Text.sortIds d.hosts).filterMap fun h =>
    if 1 < (d.owners h).length then some (.duplicateHost h (d.owners h)) else none

end Deployment

namespace Declaration

/-- The declared roles that are no slugs. -/
def invalidRoles (d : Declaration) : List Violation :=
  (d.roles.getD []).zipIdx.filterMap fun (r, i) =>
    if Text.isSlug r then none else some (.invalidRole i r)

/-- All violations of a declaration. -/
def violations (known : List String) (environment : String) (d : Declaration) : List Violation :=
  let resolved := d.resolve environment
  resolved.unknownServices (Text.sortIds known) ++ resolved.invalidNames ++
    resolved.claimedHosts ++ resolved.unfitAccess ++ resolved.rolesNotAllowed ++
    resolved.invalidUsers ++ d.invalidRoles ++ resolved.sharedHosts

/-- The deployment of a declaration that keeps all rules, or else its violations. -/
def validate (known : List String) (environment : String) (d : Declaration) :
    Except (List Violation) Deployment :=
  match d.violations known environment with
  | [] => .ok (d.resolve environment)
  | vs => .error vs

/-! ## Passwords -/

/-- Words that stand in templates and are no passwords. -/
def placeholderPasswords : List String :=
  ["changeme", "change-me", "password", "<password>", "todo"]

def passwordViolation? (index : Nat) (u : UserEntry) : Option Violation :=
  let password := Text.strip (u.password.getD "").toList
  if password.isEmpty then some (.missingPassword index u.username)
  else if placeholderPasswords.contains (String.ofList (Text.lowerChars password)) then
    some (.placeholderPassword index u.username)
  else none

/-- The users without a usable password. -/
def passwordViolations (d : Declaration) : List Violation :=
  d.users.zipIdx.filterMap fun (u, i) => passwordViolation? i u

end Declaration
end StackCompiler
