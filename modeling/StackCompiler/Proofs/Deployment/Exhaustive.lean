import StackCompiler.Proofs.Data.Entries
import StackCompiler.Proofs.Data.OneEach
import StackCompiler.Proofs.Deployment.Obligation
import StackCompiler.Proofs.Text.Order

/-!
# Every broken rule is reported

Validation accepts the valid declarations and no others. Otherwise the violations are one for each
broken obligation, with the code of the rule and the path of the place
(`Declaration.validate_exhaustive`).
-/

namespace StackCompiler

/-! ## Reports -/

namespace Obligation

/-- The code under which a broken rule is reported. -/
def code : Obligation → String
  | service _ .known => "UNKNOWN_SERVICE"
  | service _ .idForm => "INVALID_SERVICE_ID"
  | service _ .hostForm => "INVALID_HOST"
  | service _ .hostUnreserved => "RESERVED_HOST"
  | service _ .freeWithoutRoles => "AUTH_NONE_WITH_ROLES"
  | service _ .proxyWithRoles => "PROXY_AUTH_WITHOUT_ROLES"
  | service _ .inAppWithRoles => "UI_AUTH_WITHOUT_ROLES"
  | serviceRole .. | userRole _ _ .listed => "ROLE_NOT_IN_ALLOWLIST"
  | user _ .nameForm => "INVALID_USERNAME"
  | user _ .emailForm => "INVALID_EMAIL"
  | user _ .someRole => "USER_NO_ROLES"
  | userRole _ _ .form | declaredRole _ => "INVALID_ROLE_FORMAT"
  | environment => "USERS_NOT_ALLOWED"
  | unsharedHost _ => "DUPLICATE_HOST"

/-- The id of a service. -/
def serviceId (d : Deployment) (i : Nat) : String := ((d.services[i]?).map (·.id)).getD ""

/-- The path at which a broken rule is reported. -/
def path (d : Deployment) : Obligation → String
  | service i .known | service i .idForm => s!"services.{serviceId d i}"
  | service i .hostForm | service i .hostUnreserved => s!"services.{serviceId d i}.host"
  | service i .freeWithoutRoles | service i .proxyWithRoles | service i .inAppWithRoles =>
    s!"services.{serviceId d i}.authType"
  | serviceRole i _ => s!"services.{serviceId d i}.requiredRoles"
  | user i .nameForm => s!"users[{i}].username"
  | user i .emailForm => s!"users[{i}].email"
  | user i .someRole | userRole i _ .listed => s!"users[{i}].roles"
  | userRole i j .form => s!"users[{i}].roles[{j}]"
  | environment => "users"
  | declaredRole j => s!"roles[{j}]"
  | unsharedHost _ => "services"

end Obligation

/-- The owners of a host are named in the order of ids. -/
structure NamesOwners (d : Deployment) (host : String) (v : Violation) (ids : List String) :
    Prop where
  eq_duplicateHost : v = .duplicateHost host ids
  message : v.message =
    "Host '" ++ host ++ "' is used by multiple services: " ++ ", ".intercalate ids
  owners : ids.Perm ((d.services.filter (·.host == host)).map (·.id))
  ordered : ids.Pairwise fun a b => (Text.compareIds a b).isLE

/-- A violation reports that an obligation is broken. -/
structure Reports (d : Deployment) (o : Obligation) (v : Violation) : Prop where
  code : v.code = o.code
  path : v.path = o.path d
  owners : ∀ host, o = .unsharedHost host → ∃ ids, NamesOwners d host v ids

/-! ## Services -/

section Services

variable {d : Deployment} {i : Nat} {s : Service}

theorem serviceId_of_getElem? (hs : d.services[i]? = some s) :
    Obligation.serviceId d i = s.id := by
  rw [Obligation.serviceId, hs]
  rfl

/-- A service does not keep one of some rules. -/
def Breaks (known : List String) (rules : List ServiceRule) (i : Nat) (s : Service)
    (o : Obligation) : Prop :=
  ∃ rule ∈ rules, o = .service i rule ∧ rule.BrokenBy known s

/-- A check on each service for itself. -/
theorem oneEach_services {known : List String} {rules : List ServiceRule}
    {f : Service → List Violation}
    (h : ∀ i s, d.services[i]? = some s → OneEach (Reports d) (Breaks known rules i s) (f s)) :
    OneEach (Reports d) (fun o => ∃ i s, d.services[i]? = some s ∧ Breaks known rules i s o)
      (d.services.flatMap f) := by
  refine .flatMap (fun i j s s' o hi hj => ?_) h
  obtain ⟨_, _, rfl, _⟩ := hi
  obtain ⟨_, _, heq, _⟩ := hj
  cases heq
  rfl

theorem breaks_singleton {known : List String} {rule : ServiceRule} {o : Obligation} :
    o = .service i rule ∧ rule.BrokenBy known s ↔ Breaks known [rule] i s o := by
  simp [Breaks]

theorem oneEach_unknownServices {known : List String} :
    OneEach (Reports d) (fun o => ∃ i s, d.services[i]? = some s ∧ Breaks known [.known] i s o)
      (d.unknownServices (Text.sortIds known)) := by
  rw [Deployment.unknownServices, List.filterMap_eq_flatMap_toList]
  refine oneEach_services fun i s hs =>
    (OneEach.of_cases (fun hbroken => ?_) fun hkept => ?_).congr fun _ => breaks_singleton
  · refine ⟨.unknownService s.id (Text.sortIds known), ?_, rfl, ?_, nofun⟩
    · simpa [ServiceRule.BrokenBy] using hbroken
    · rw [← serviceId_of_getElem? hs]
      rfl
  · simpa [ServiceRule.BrokenBy] using hkept

theorem oneEach_invalidNames {known : List String} :
    OneEach (Reports d)
      (fun o => ∃ i s, d.services[i]? = some s ∧ Breaks known [.idForm, .hostForm] i s o)
      d.invalidNames := by
  refine oneEach_services fun i s hs => OneEach.congr (.append
    (P := fun o => o = .service i .idForm ∧ ServiceRule.idForm.BrokenBy known s)
    (Q := fun o => o = .service i .hostForm ∧ ServiceRule.hostForm.BrokenBy known s)
    (.of_cases (fun hbroken => ?_) fun hkept => if_pos ?_)
    (.of_cases (fun hbroken => ?_) fun hkept => if_pos ?_) ?_) fun o => ?_
  · refine ⟨.invalidServiceId s.id, if_neg hbroken, rfl, ?_, nofun⟩
    rw [← serviceId_of_getElem? hs]
    rfl
  · simpa [ServiceRule.BrokenBy] using hkept
  · refine ⟨.invalidHost s.id s.host, if_neg hbroken, rfl, ?_, nofun⟩
    rw [← serviceId_of_getElem? hs]
    rfl
  · simpa [ServiceRule.BrokenBy] using hkept
  · simp
  · simp [Breaks]

theorem oneEach_claimedHosts {known : List String} :
    OneEach (Reports d)
      (fun o => ∃ i s, d.services[i]? = some s ∧ Breaks known [.hostUnreserved] i s o)
      d.claimedHosts := by
  rw [Deployment.claimedHosts, List.filterMap_eq_flatMap_toList]
  refine oneEach_services fun i s hs =>
    (OneEach.of_cases (fun hbroken => ?_) fun hkept => ?_).congr fun _ => breaks_singleton
  · refine ⟨.reservedHost s.id s.host, ?_, rfl, ?_, nofun⟩
    · simpa [ServiceRule.BrokenBy] using hbroken
    · rw [← serviceId_of_getElem? hs]
      rfl
  · simpa [ServiceRule.BrokenBy] using hkept

/-- A service breaks at most one of the rules on its kind of access. -/
theorem oneEach_unfitAccess {known : List String} :
    OneEach (Reports d)
      (fun o => ∃ i s, d.services[i]? = some s ∧
        Breaks known [.freeWithoutRoles, .proxyWithRoles, .inAppWithRoles] i s o)
      d.unfitAccess := by
  rw [Deployment.unfitAccess, List.filterMap_eq_flatMap_toList]
  refine oneEach_services fun i s hs => ?_
  have hid : Obligation.serviceId d i = s.id := serviceId_of_getElem? hs
  cases haccess : s.access <;> cases hroles : s.roles
  case free.nil | proxy.cons | inApp.cons =>
    exact .nil fun o ho => by simp [Breaks, ServiceRule.BrokenBy, haccess, hroles] at ho
  case free.cons =>
    refine .singleton (a := .service i .freeWithoutRoles) (fun o => ?_) ⟨rfl, ?_, nofun⟩
    · simp [Breaks, ServiceRule.BrokenBy, haccess, hroles]
    · rw [← hid]
      rfl
  case proxy.nil =>
    refine .singleton (a := .service i .proxyWithRoles) (fun o => ?_) ⟨rfl, ?_, nofun⟩
    · simp [Breaks, ServiceRule.BrokenBy, haccess, hroles]
    · rw [← hid]
      rfl
  case inApp.nil =>
    refine .singleton (a := .service i .inAppWithRoles) (fun o => ?_) ⟨rfl, ?_, nofun⟩
    · simp [Breaks, ServiceRule.BrokenBy, haccess, hroles]
    · rw [← hid]
      rfl

/-- The checks on services together. -/
theorem oneEach_services_append {known : List String} {rules rules' : List ServiceRule}
    {vs vs' : List Violation} (hdisjoint : ∀ rule ∈ rules, rule ∉ rules')
    (h : OneEach (Reports d) (fun o => ∃ i s, d.services[i]? = some s ∧ Breaks known rules i s o)
      vs)
    (h' : OneEach (Reports d) (fun o => ∃ i s, d.services[i]? = some s ∧ Breaks known rules' i s o)
      vs') :
    OneEach (Reports d)
      (fun o => ∃ i s, d.services[i]? = some s ∧ Breaks known (rules ++ rules') i s o)
      (vs ++ vs') := by
  refine (h.append h' ?_).congr fun o => ?_
  · rintro _ ⟨_, _, _, rule, hrule, rfl, _⟩ ⟨_, _, _, rule', hrule', heq, _⟩
    cases heq
    exact hdisjoint rule hrule hrule'
  · simp only [Breaks, List.mem_append, or_and_right, exists_or, and_or_left]

end Services

/-! ## Roles -/

section Roles

variable {d : Declaration} (environment : String)

/-- The roles of the deployment are the declared ones, if any are declared. -/
theorem unlisted_iff {role : String} :
    d.Unlisted role ↔
      (d.resolve environment).rolesExplicit ∧ role ∉ (d.resolve environment).roles := by
  change _ ↔ d.roles.isSome ∧ role ∉ realmRoles d.roles d.users (d.services.map (·.2))
  cases hroles : d.roles with
  | none => simp [Declaration.Unlisted, hroles]
  | some listed => simp [Declaration.Unlisted, hroles, realmRoles]

/-- A list of roles, of which those that are not among the declared ones are reported. -/
theorem oneEach_unlisted {roles : List String} (place : Nat → Obligation)
    {report : String → Violation} (hplace : Function.Injective place)
    (hreport : ∀ j r, roles[j]? = some r → Reports (d.resolve environment) (place j) (report r)) :
    OneEach (Reports (d.resolve environment))
      (fun o => ∃ j r, roles[j]? = some r ∧ o = place j ∧ r ∉ (d.resolve environment).roles)
      ((roles.filter fun r => !(d.resolve environment).roles.contains r).map report) := by
  rw [← List.filterMap_eq_filter, List.map_filterMap, List.filterMap_eq_flatMap_toList]
  refine .flatMap (fun i j x y o hi hj => hplace (hi.1.symm.trans hj.1)) fun j r hr => ?_
  refine .of_cases (fun hunlisted => ⟨report r, ?_, hreport j r hr⟩) fun hlisted => ?_
  · simp [Option.guard, hunlisted]
  · simp [Option.guard, Decidable.not_not.1 hlisted]

theorem oneEach_rolesNotAllowed :
    OneEach (Reports (d.resolve environment))
      (fun o => (∃ i u, (d.resolve environment).users[i]? = some u ∧ ∃ j r, u.roles[j]? = some r ∧
          o = .userRole i j .listed ∧ d.Unlisted r) ∨
        ∃ i s, (d.resolve environment).services[i]? = some s ∧ ∃ j r, s.roles[j]? = some r ∧
          o = .serviceRole i j ∧ d.Unlisted r)
      (d.resolve environment).rolesNotAllowed := by
  simp only [unlisted_iff environment]
  rw [Deployment.rolesNotAllowed]
  split
  case isFalse himplicit =>
    exact .nil fun o ho => by
      obtain ⟨_, _, _, _, _, _, _, h, _⟩ | ⟨_, _, _, _, _, _, _, h, _⟩ := ho <;>
        exact himplicit h
  case isTrue hexplicit =>
    simp only [hexplicit, true_and]
    refine .append (.flatMap_zipIdx ?_ fun i u hu => ?_) (.flatMap ?_ fun i s hs => ?_) ?_
    · rintro i i' u u' o ⟨_, _, _, rfl, _⟩ ⟨_, _, _, heq, _⟩
      cases heq
      rfl
    · exact oneEach_unlisted environment (.userRole i · .listed) (fun _ _ h => by cases h; rfl)
        fun j r hr => ⟨rfl, rfl, nofun⟩
    · rintro i i' s s' o ⟨_, _, _, rfl, _⟩ ⟨_, _, _, heq, _⟩
      cases heq
      rfl
    · refine oneEach_unlisted environment (.serviceRole i ·) (fun _ _ h => by cases h; rfl)
        fun j r hr => ⟨rfl, ?_, nofun⟩
      rw [← serviceId_of_getElem? hs]
      rfl
    · rintro _ ⟨_, _, _, _, _, _, rfl, _⟩ ⟨_, _, _, _, _, _, heq, _⟩
      cases heq

end Roles

/-- A list of roles, of which those that are no slugs are reported. -/
theorem oneEach_malformed {d : Deployment} (roles : List String) (place : Nat → Obligation)
    {report : Nat → String → Violation} (hplace : Function.Injective place)
    (hreport : ∀ j r, Reports d (place j) (report j r)) :
    OneEach (Reports d) (fun o => ∃ j r, roles[j]? = some r ∧ o = place j ∧ ¬Text.isSlug r)
      (roles.zipIdx.filterMap fun (r, j) =>
        if Text.isSlug r then none else some (report j r)) := by
  rw [List.filterMap_eq_flatMap_toList]
  refine .flatMap_zipIdx (fun i j x y o hi hj => hplace (hi.1.symm.trans hj.1)) fun j r hr => ?_
  refine .of_cases (fun hform => ⟨report j r, ?_, hreport j r⟩) fun hform => ?_
  · simp [hform]
  · simp [Decidable.not_not.1 hform]

/-! ## Users -/

/-- A user does not keep a rule, or one of the user's roles has no proper form. -/
def UserBreaks (i : Nat) (u : User) (o : Obligation) : Prop :=
  (∃ rule : UserRule, o = .user i rule ∧ rule.BrokenBy u) ∨
    ∃ j r, u.roles[j]? = some r ∧ o = .userRole i j .form ∧ ¬Text.isSlug r

theorem oneEach_userViolations {d : Deployment} (i : Nat) (u : User) :
    OneEach (Reports d) (UserBreaks i u) (Deployment.userViolations i u) := by
  have hname : OneEach (Reports d) (fun o => o = .user i .nameForm ∧ ¬Text.isSlug u.username)
      (if Text.isSlug u.username then [] else [.invalidUsername i u.username]) :=
    .of_cases (fun hbroken => ⟨_, if_neg hbroken, rfl, rfl, nofun⟩)
      fun hkept => if_pos (Decidable.not_not.1 hkept)
  have hemail : OneEach (Reports d) (fun o => o = .user i .emailForm ∧ ¬Text.isEmail u.email)
      (if Text.isEmail u.email then [] else [.invalidEmail i u.username u.email]) :=
    .of_cases (fun hbroken => ⟨_, if_neg hbroken, rfl, rfl, nofun⟩)
      fun hkept => if_pos (Decidable.not_not.1 hkept)
  have hsome : OneEach (Reports d) (fun o => o = .user i .someRole ∧ u.roles.isEmpty)
      (if u.roles.isEmpty then [.userWithoutRoles i u.username] else []) :=
    .of_cases (fun hbroken => ⟨_, if_pos hbroken, rfl, rfl, nofun⟩) fun hkept => if_neg hkept
  have hforms : OneEach (Reports d)
      (fun o => ∃ j r, u.roles[j]? = some r ∧ o = .userRole i j .form ∧ ¬Text.isSlug r)
      (u.roles.zipIdx.filterMap fun (r, j) =>
        if Text.isSlug r then none else some (.invalidUserRole i u.username j r)) :=
    oneEach_malformed u.roles (.userRole i · .form) (fun _ _ h => by cases h; rfl)
      fun j r => ⟨rfl, rfl, nofun⟩
  refine (((hname.append hemail ?_).append hsome ?_).append hforms ?_).congr fun o => ?_
  · rintro _ ⟨rfl, _⟩ ⟨heq, _⟩
    cases heq
  · rintro _ (⟨rfl, _⟩ | ⟨rfl, _⟩) ⟨heq, _⟩ <;> cases heq
  · rintro _ ((⟨rfl, _⟩ | ⟨rfl, _⟩) | ⟨rfl, _⟩) ⟨_, _, _, heq, _⟩ <;> cases heq
  · refine or_congr ⟨?_, ?_⟩ Iff.rfl
    · rintro ((⟨rfl, h⟩ | ⟨rfl, h⟩) | ⟨rfl, h⟩)
      · exact ⟨.nameForm, rfl, h⟩
      · exact ⟨.emailForm, rfl, h⟩
      · exact ⟨.someRole, rfl, List.isEmpty_iff.1 h⟩
    · rintro ⟨_ | _ | _, rfl, h⟩
      · exact .inl (.inl ⟨rfl, h⟩)
      · exact .inl (.inr ⟨rfl, h⟩)
      · exact .inr ⟨rfl, List.isEmpty_iff.2 h⟩

theorem oneEach_invalidUsers {d : Deployment} :
    OneEach (Reports d)
      (fun o => (o = .environment ∧ d.users ≠ [] ∧ d.environment ≠ usersEnvironment) ∨
        ∃ i u, d.users[i]? = some u ∧ UserBreaks i u o)
      d.invalidUsers := by
  refine .append (.of_cases (fun hbroken => ⟨.usersNotAllowed d.environment, ?_, rfl, rfl, nofun⟩)
    fun hkept => ?_) (.flatMap_zipIdx ?_ fun i u _ => oneEach_userViolations i u) ?_
  · simp [hbroken]
  · refine if_pos ?_
    rw [Bool.or_eq_true, List.isEmpty_iff, beq_iff_eq]
    tauto
  · rintro i i' u u' o (⟨_, rfl, _⟩ | ⟨_, _, _, rfl, _⟩) (⟨_, heq, _⟩ | ⟨_, _, _, heq, _⟩) <;>
      cases heq <;> rfl
  · rintro _ ⟨rfl, _⟩ ⟨_, _, _, ⟨_, heq, _⟩ | ⟨_, _, _, heq, _⟩⟩ <;> cases heq

theorem oneEach_invalidRoles {d : Deployment} {declaration : Declaration} :
    OneEach (Reports d)
      (fun o => ∃ j r, (declaration.roles.getD [])[j]? = some r ∧ o = .declaredRole j ∧
        ¬Text.isSlug r)
      declaration.invalidRoles :=
  oneEach_malformed _ .declaredRole (fun _ _ h => by cases h; rfl)
    fun _ _ => ⟨rfl, rfl, nofun⟩

/-! ## Hosts -/

theorem ServiceEntry.id_resolve (id : String) (e : ServiceEntry) : (e.resolve id).id = id := rfl

/-- The services of a declaration are in the order of their ids. -/
theorem Declaration.services_pairwise (environment : String) (d : Declaration) :
    (d.resolve environment).services.Pairwise fun s t => (Text.compareIds s.id t.id).isLE := by
  change ((Text.sortById (·.1) d.services).map fun e => e.2.resolve e.1).Pairwise _
  simp only [List.pairwise_map, ServiceEntry.id_resolve]
  exact Text.sortById_pairwise _ _

theorem oneEach_sharedHosts {d : Deployment}
    (hsorted : d.services.Pairwise fun s t => (Text.compareIds s.id t.id).isLE) :
    OneEach (Reports d)
      (fun o => ∃ host, o = .unsharedHost host ∧ 1 < d.services.countP (·.host == host))
      d.sharedHosts := by
  have hshared : d.sharedHosts = ((Text.sortIds d.hosts).filter fun host =>
      1 < d.services.countP (·.host == host)).map fun host =>
        .duplicateHost host (d.owners host) := by
    rw [Deployment.sharedHosts, ← List.filterMap_eq_filter, List.map_filterMap]
    refine List.filterMap_congr fun host _ => ?_
    by_cases h : 1 < d.services.countP (·.host == host) <;>
      simp [Option.guard, d.length_owners, h]
  refine ⟨((Text.sortIds d.hosts).filter fun host =>
    1 < d.services.countP (·.host == host)).map .unsharedHost, ?_, fun o => ?_, ?_⟩
  · have hnodup : (Text.sortIds d.hosts).Nodup :=
      (Text.sortById_perm id d.hosts).nodup_iff.2 (nodup_eraseDups _)
    exact (hnodup.filter _).map fun _ _ h => by cases h; rfl
  · simp only [List.mem_map, List.mem_filter, Text.mem_sortIds, decide_eq_true_eq]
    constructor
    · rintro ⟨host, ⟨-, h⟩, rfl⟩
      exact ⟨host, rfl, h⟩
    · rintro ⟨host, rfl, h⟩
      obtain ⟨s, hs, heq⟩ := List.countP_pos_iff.1 (Nat.zero_lt_of_lt h)
      refine ⟨host, ⟨List.mem_eraseDups.2 (List.mem_map.2 ⟨s, hs, beq_iff_eq.1 heq⟩), h⟩, rfl⟩
  · rw [hshared, List.forall₂_map_left_iff, List.forall₂_map_right_iff]
    refine List.forall₂_same.2 fun host _ => ⟨rfl, rfl, ?_⟩
    rintro _ ⟨⟩
    exact ⟨d.owners host, rfl, rfl, .refl _,
      List.pairwise_map.2 (hsorted.sublist List.filter_sublist)⟩

/-! ## All violations -/

section Violations

variable {known : List String} {environment : String} {d : Declaration}

theorem oneEach_violations :
    OneEach (Reports (d.resolve environment)) (Obligation.Broken known environment d)
      (d.violations known environment) := by
  have hservices : OneEach (Reports (d.resolve environment))
      (fun o => ∃ i s, (d.resolve environment).services[i]? = some s ∧ Breaks known
        ([.known] ++ [.idForm, .hostForm] ++ [.hostUnreserved] ++
          [.freeWithoutRoles, .proxyWithRoles, .inAppWithRoles]) i s o)
      ((d.resolve environment).unknownServices (Text.sortIds known) ++
        (d.resolve environment).invalidNames ++ (d.resolve environment).claimedHosts ++
        (d.resolve environment).unfitAccess) :=
    oneEach_services_append (by simp) (oneEach_services_append (by simp)
      (oneEach_services_append (by simp) oneEach_unknownServices oneEach_invalidNames)
      oneEach_claimedHosts) oneEach_unfitAccess
  have hroles := oneEach_rolesNotAllowed (d := d) environment
  refine ((((hservices.append hroles ?_).append oneEach_invalidUsers ?_).append
    oneEach_invalidRoles ?_).append (oneEach_sharedHosts (d.services_pairwise environment))
    ?_).congr fun o => ?_
  -- no obligation belongs to two of the checks
  · intro o h h'
    cases o <;> simp [Breaks] at h h'
  · rintro (_ | _ | _ | ⟨_, _, _ | _⟩ | _ | _ | _) h h' <;> simp [Breaks, UserBreaks] at h h'
  · intro o h h'
    cases o <;> simp [Breaks, UserBreaks] at h h'
  · intro o h h'
    cases o <;> simp [Breaks, UserBreaks] at h h'
  · cases o with
    | service i rule => cases rule <;> simp [Breaks, UserBreaks, Obligation.Broken]
    | serviceRole i j => simp [Breaks, UserBreaks, Obligation.Broken]
    | user i rule => simp [Breaks, UserBreaks, Obligation.Broken]
    | userRole i j rule =>
      cases rule <;> simp [Breaks, UserBreaks, Obligation.Broken, RoleRule.BrokenBy]
    | environment =>
      have henvironment : (d.resolve environment).environment = environment := rfl
      simp [Breaks, UserBreaks, Obligation.Broken, henvironment, usersEnvironment]
    | declaredRole j =>
      cases hroles : d.roles <;> simp [Breaks, UserBreaks, Obligation.Broken, hroles]
    | unsharedHost host => simp [Breaks, UserBreaks, Obligation.Broken]

theorem Declaration.violations_eq_nil_iff :
    d.violations known environment = [] ↔ d.Valid known environment :=
  oneEach_violations.eq_nil_iff.trans valid_iff_not_broken.symm

theorem Declaration.validate_eq_ok_iff {deployment : Deployment} :
    d.validate known environment = .ok deployment ↔
      d.Valid known environment ∧ deployment = d.resolve environment := by
  rw [validate, ← violations_eq_nil_iff]
  cases d.violations known environment with
  | nil => simp [eq_comm]
  | cons v vs => simp

/-- Validation gives the deployment just of the valid declarations. For all others it gives one
violation for each broken obligation, with the code of its rule and the path of its place, and no
others. -/
theorem Declaration.validate_exhaustive (known : List String) (environment : String)
    (d : Declaration) :
    (∀ deployment, d.validate known environment = .ok deployment ↔
      d.Valid known environment ∧ deployment = d.resolve environment) ∧
    (d.Valid known environment ∨ ∃ vs, d.validate known environment = .error vs ∧
      OneEach (Reports (d.resolve environment)) (Obligation.Broken known environment d) vs) := by
  have heach : OneEach (Reports (d.resolve environment)) (Obligation.Broken known environment d)
      (d.violations known environment) := oneEach_violations
  refine ⟨fun deployment => validate_eq_ok_iff, ?_⟩
  rw [validate, ← violations_eq_nil_iff]
  cases hviolations : d.violations known environment with
  | nil => exact .inl rfl
  | cons v vs =>
    rw [hviolations] at heach
    exact .inr ⟨v :: vs, rfl, heach⟩

end Violations


end StackCompiler
