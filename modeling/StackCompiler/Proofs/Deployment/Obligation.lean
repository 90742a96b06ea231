import Mathlib.Data.List.Nodup
import StackCompiler.Deployment.Validation

/-!
# Obligations

An `Obligation` is a rule at one of the places where it has to be kept: a service, a user, an
occurrence of a role, a host. `Obligation.Broken` says what it means that it is not kept there. A
declaration is `Valid` if it keeps all rules, that is, if no obligation is broken
(`Declaration.valid_iff_not_broken`).
-/

namespace StackCompiler

/-! ## Obligations -/

/-- A rule on one service. -/
inductive ServiceRule where
  | known
  | idForm
  | hostForm
  | hostUnreserved
  | freeWithoutRoles
  | proxyWithRoles
  | inAppWithRoles
  deriving DecidableEq

/-- A rule on one user. -/
inductive UserRule where
  | nameForm
  | emailForm
  | someRole
  deriving DecidableEq

/-- A rule on one occurrence of a role. -/
inductive RoleRule where
  | form
  | listed
  deriving DecidableEq

/-- A rule at one place. Services, users and the roles of each are named by their positions. -/
inductive Obligation where
  | service (i : Nat) (rule : ServiceRule)
  | serviceRole (i j : Nat)
  | user (i : Nat) (rule : UserRule)
  | userRole (i j : Nat) (rule : RoleRule)
  | environment
  | declaredRole (j : Nat)
  | unsharedHost (host : String)
  deriving DecidableEq

/-- What it means that a service does not keep a rule. -/
def ServiceRule.BrokenBy (known : List String) (s : Service) : ServiceRule → Prop
  | .known => s.id ∉ known
  | idForm => ¬Text.isSlug s.id
  | hostForm => ¬Text.isSlug s.host
  | hostUnreserved => s.host ∈ reservedHosts
  | freeWithoutRoles => s.access = .free ∧ s.roles ≠ []
  | proxyWithRoles => s.access = .proxy ∧ s.roles = []
  | inAppWithRoles => s.access = .inApp ∧ s.roles = []

def UserRule.BrokenBy (u : User) : UserRule → Prop
  | nameForm => ¬Text.isSlug u.username
  | emailForm => ¬Text.isEmail u.email
  | someRole => u.roles = []

/-- Roles must be among the declared ones if any are declared. -/
def Declaration.Unlisted (d : Declaration) (role : String) : Prop :=
  ∃ listed, d.roles = some listed ∧ role ∉ listed

def RoleRule.BrokenBy (d : Declaration) (role : String) : RoleRule → Prop
  | form => ¬Text.isSlug role
  | listed => d.Unlisted role

namespace Obligation

/-- What it means that a rule is not kept at a place. -/
def Broken (known : List String) (environment : String) (d : Declaration) : Obligation → Prop
  | service i rule => ∃ s, (d.resolve environment).services[i]? = some s ∧ rule.BrokenBy known s
  | serviceRole i j => ∃ s, (d.resolve environment).services[i]? = some s ∧
      ∃ r, s.roles[j]? = some r ∧ d.Unlisted r
  | user i rule => ∃ u, (d.resolve environment).users[i]? = some u ∧ rule.BrokenBy u
  | userRole i j rule => ∃ u, (d.resolve environment).users[i]? = some u ∧
      ∃ r, u.roles[j]? = some r ∧ rule.BrokenBy d r
  | .environment => (d.resolve environment).users ≠ [] ∧ environment ≠ "local"
  | declaredRole j => ∃ listed, d.roles = some listed ∧ ∃ r, listed[j]? = some r ∧ ¬Text.isSlug r
  | unsharedHost host => 1 < (d.resolve environment).services.countP (·.host == host)

end Obligation

/-! ## Validity -/

/-- A declaration whose deployment keeps all rules. -/
structure Declaration.Valid (known : List String) (environment : String) (d : Declaration) :
    Prop where
  ids : ∀ s ∈ (d.resolve environment).services, s.id ∈ known ∧ Text.isSlug s.id
  hosts : ∀ s ∈ (d.resolve environment).services, Text.isSlug s.host ∧ s.host ∉ reservedHosts
  hosts_nodup : ((d.resolve environment).services.map (·.host)).Nodup
  access : ∀ s ∈ (d.resolve environment).services, s.access = .free ↔ s.roles = []
  declared : ∀ listed, d.roles = some listed → (∀ r ∈ listed, Text.isSlug r) ∧
    (∀ u ∈ (d.resolve environment).users, ∀ r ∈ u.roles, r ∈ listed) ∧
    ∀ s ∈ (d.resolve environment).services, ∀ r ∈ s.roles, r ∈ listed
  users_allowed : (d.resolve environment).users ≠ [] → environment = "local"
  users : ∀ u ∈ (d.resolve environment).users, Text.isSlug u.username ∧ Text.isEmail u.email ∧
    u.roles ≠ [] ∧ ∀ r ∈ u.roles, Text.isSlug r

section

variable {known : List String} {environment : String} {d : Declaration}

/-- No host has two services where no two services have the same host. -/
theorem countP_host_le_one_iff {services : List Service} :
    (∀ host, ¬1 < services.countP (·.host == host)) ↔ (services.map (·.host)).Nodup := by
  simp only [List.nodup_iff_count_le_one, List.count_eq_countP, List.countP_map, Nat.not_lt]
  rfl

theorem Deployment.length_owners (d : Deployment) (host : String) :
    (d.owners host).length = d.services.countP (·.host == host) := by
  rw [owners, List.length_map, List.countP_eq_length_filter]

theorem Declaration.Valid.not_broken (h : d.Valid known environment) :
    ∀ o : Obligation, ¬o.Broken known environment d
  | .service i rule => by
    rintro ⟨s, hs, hbroken⟩
    have hmem := List.mem_of_getElem? hs
    cases rule with
    | known => exact hbroken (h.ids s hmem).1
    | idForm => exact hbroken (h.ids s hmem).2
    | hostForm => exact hbroken (h.hosts s hmem).1
    | hostUnreserved => exact (h.hosts s hmem).2 hbroken
    | freeWithoutRoles => exact hbroken.2 ((h.access s hmem).1 hbroken.1)
    | proxyWithRoles => exact absurd ((h.access s hmem).2 hbroken.2) (by simp [hbroken.1])
    | inAppWithRoles => exact absurd ((h.access s hmem).2 hbroken.2) (by simp [hbroken.1])
  | .serviceRole i j => by
    rintro ⟨s, hs, r, hr, listed, hlisted, hunlisted⟩
    exact hunlisted ((h.declared listed hlisted).2.2 s (List.mem_of_getElem? hs) r
      (List.mem_of_getElem? hr))
  | .user i rule => by
    rintro ⟨u, hu, hbroken⟩
    obtain ⟨hname, hemail, hroles, -⟩ := h.users u (List.mem_of_getElem? hu)
    cases rule with
    | nameForm => exact hbroken hname
    | emailForm => exact hbroken hemail
    | someRole => exact hroles hbroken
  | .userRole i j rule => by
    rintro ⟨u, hu, r, hr, hbroken⟩
    have hmem := List.mem_of_getElem? hu
    have hrole := List.mem_of_getElem? hr
    cases rule with
    | form => exact hbroken ((h.users u hmem).2.2.2 r hrole)
    | listed =>
      obtain ⟨listed, hlisted, hunlisted⟩ := hbroken
      exact hunlisted ((h.declared listed hlisted).2.1 u hmem r hrole)
  | .environment => fun ⟨husers, henvironment⟩ => henvironment (h.users_allowed husers)
  | .declaredRole j => by
    rintro ⟨listed, hlisted, r, hr, hform⟩
    exact hform ((h.declared listed hlisted).1 r (List.mem_of_getElem? hr))
  | .unsharedHost host => countP_host_le_one_iff.2 h.hosts_nodup host

theorem Declaration.valid_of_not_broken
    (h : ∀ o : Obligation, ¬o.Broken known environment d) : d.Valid known environment := by
  have hservice : ∀ s ∈ (d.resolve environment).services, ∀ rule : ServiceRule,
      ¬rule.BrokenBy known s := fun s hs rule hbroken => by
    obtain ⟨i, hi⟩ := List.mem_iff_getElem?.1 hs
    exact h (.service i rule) ⟨s, hi, hbroken⟩
  have huser : ∀ u ∈ (d.resolve environment).users, (∀ rule : UserRule, ¬rule.BrokenBy u) ∧
      ∀ r ∈ u.roles, ∀ rule : RoleRule, ¬rule.BrokenBy d r := fun u hu => by
    obtain ⟨i, hi⟩ := List.mem_iff_getElem?.1 hu
    refine ⟨fun rule hbroken => h (.user i rule) ⟨u, hi, hbroken⟩, fun r hr rule hbroken => ?_⟩
    obtain ⟨j, hj⟩ := List.mem_iff_getElem?.1 hr
    exact h (.userRole i j rule) ⟨u, hi, r, hj, hbroken⟩
  constructor
  case ids =>
    exact fun s hs => ⟨not_not.1 (hservice s hs .known), not_not.1 (hservice s hs .idForm)⟩
  case hosts =>
    exact fun s hs => ⟨not_not.1 (hservice s hs .hostForm), hservice s hs .hostUnreserved⟩
  case hosts_nodup => exact countP_host_le_one_iff.1 fun host => h (.unsharedHost host)
  case access =>
    intro s hs
    refine ⟨fun hfree => not_not.1 fun hroles => hservice s hs .freeWithoutRoles ⟨hfree, hroles⟩,
      fun hroles => ?_⟩
    cases haccess : s.access with
    | free => rfl
    | proxy => exact absurd ⟨haccess, hroles⟩ (hservice s hs .proxyWithRoles)
    | inApp => exact absurd ⟨haccess, hroles⟩ (hservice s hs .inAppWithRoles)
  case declared =>
    refine fun listed hlisted => ⟨fun r hr => ?_, fun u hu r hr => ?_, fun s hs r hr => ?_⟩
    · obtain ⟨j, hj⟩ := List.mem_iff_getElem?.1 hr
      exact not_not.1 fun hform => h (.declaredRole j) ⟨listed, hlisted, r, hj, hform⟩
    · exact not_not.1 fun hunlisted => (huser u hu).2 r hr .listed ⟨listed, hlisted, hunlisted⟩
    · obtain ⟨i, hi⟩ := List.mem_iff_getElem?.1 hs
      obtain ⟨j, hj⟩ := List.mem_iff_getElem?.1 hr
      exact not_not.1 fun hunlisted =>
        h (.serviceRole i j) ⟨s, hi, r, hj, listed, hlisted, hunlisted⟩
  case users_allowed =>
    exact fun husers => not_not.1 fun henvironment => h .environment ⟨husers, henvironment⟩
  case users =>
    exact fun u hu => ⟨not_not.1 ((huser u hu).1 .nameForm), not_not.1 ((huser u hu).1 .emailForm),
      (huser u hu).1 .someRole, fun r hr => not_not.1 ((huser u hu).2 r hr .form)⟩

theorem Declaration.valid_iff_not_broken :
    d.Valid known environment ↔ ∀ o : Obligation, ¬o.Broken known environment d :=
  ⟨Valid.not_broken, valid_of_not_broken⟩

end

end StackCompiler
