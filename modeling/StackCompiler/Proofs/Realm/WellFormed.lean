import StackCompiler.Proofs.Artifacts.Consistency
import StackCompiler.Proofs.Artifacts.Secrecy

/-!
# Realms that can be imported

An identity provider refuses a realm that has a client, a role or a user twice, and locks users out
whose roles it does not have. Neither can happen with the realm of a stack file that resolved: its
roles are those of the deployment, and all that services and users need is among them
(`Realm.wellFormed_of_build`).
-/

namespace StackCompiler

/-! ## Roles of a deployment -/

namespace Declaration

variable {environment : String} {known : List String} {d : Declaration} {role : String}

theorem roles_nodup (environment : String) (d : Declaration) :
    (d.resolve environment).roles.Nodup := by
  change (realmRoles d.roles d.users (d.services.map (·.2))).Nodup
  cases d.roles with
  | some listed => exact (Text.sortById_perm id _).nodup_iff.2 (nodup_eraseDups _)
  | none => exact (Text.sortById_perm id _).nodup_iff.2 (nodup_eraseDups _)

theorem mem_mentionedRoles_iff {users : List UserEntry} {services : List ServiceEntry} :
    role ∈ mentionedRoles users services ↔
      (∃ u ∈ users, role ∈ u.roles) ∨ ∃ e ∈ services, role ∈ e.roles.getD [] := by
  rw [mentionedRoles, List.mem_eraseDups, List.mem_append, List.mem_flatMap, List.mem_flatMap]

/-- Roles that users or services have are roles of the deployment, whether the roles were declared
or not. -/
theorem Valid.mem_roles (h : d.Valid known environment)
    (hrole : (∃ u ∈ (d.resolve environment).users, role ∈ u.roles) ∨
      ∃ s ∈ (d.resolve environment).services, role ∈ s.roles) :
    role ∈ (d.resolve environment).roles := by
  change role ∈ realmRoles d.roles d.users (d.services.map (·.2))
  cases hlisted : d.roles with
  | some listed =>
    obtain ⟨-, husers, hservices⟩ := h.declared listed hlisted
    rw [realmRoles, Text.mem_sortIds, List.mem_eraseDups]
    rcases hrole with ⟨u, hu, hmem⟩ | ⟨s, hs, hmem⟩
    · exact husers u hu role hmem
    · exact hservices s hs role hmem
  | none =>
    rw [realmRoles, Text.mem_sortIds, mem_mentionedRoles_iff]
    rcases hrole with ⟨u, hu, hmem⟩ | ⟨s, hs, hmem⟩
    · obtain ⟨entry, hentry, rfl⟩ := List.mem_map.1 hu
      exact .inl ⟨entry, hentry, hmem⟩
    · obtain ⟨entry, hentry, rfl⟩ := List.mem_map.1 hs
      exact .inr ⟨entry.2, List.mem_map_of_mem (Text.mem_sortById.1 hentry), hmem⟩

end Declaration

namespace Realm

variable {s : Settings} {d : Deployment} {context : Context} {doc : Document}

/-! ## Roles of a realm -/

/-- The added names are those that are missing, in the order in which they first occur. -/
theorem addMissing_eq : ∀ {more names : List String},
    addMissing names more = names ++ (more.filter (· ∉ names)).eraseDups
  | [], names => (List.append_nil names).symm
  | name :: more, names => by
    have hstep : addMissing names (name :: more) =
        addMissing (if names.contains name then names else names ++ [name]) more := rfl
    rw [hstep, addMissing_eq]
    by_cases hname : name ∈ names
    · rw [if_pos (List.contains_iff_mem.2 hname), List.filter_cons_of_neg (by simpa using hname)]
    · have hrest : more.filter (· ∉ names ++ [name]) =
          (more.filter (· ∉ names)).filter fun other => !other == name := by
        rw [List.filter_filter]
        refine List.filter_congr fun other _ => ?_
        by_cases hother : other = name <;> simp [hother]
      rw [if_neg (by simpa using hname), List.filter_cons_of_pos (by simpa using hname),
        List.eraseDups_cons, hrest, List.append_assoc, List.singleton_append]

theorem nodup_addMissing {names more : List String} (h : names.Nodup) :
    (addMissing names more).Nodup := by
  rw [addMissing_eq]
  refine List.nodup_append.2 ⟨h, nodup_eraseDups _, ?_⟩
  rintro name hname _ hmore rfl
  rw [List.mem_eraseDups, List.mem_filter] at hmore
  exact of_decide_eq_true hmore.2 hname

theorem addMissing_of_forall_mem {names more : List String} (h : ∀ name ∈ more, name ∈ names) :
    addMissing names more = names := by
  have hnone : more.filter (· ∉ names) = [] :=
    List.filter_eq_nil_iff.2 fun name hname => by simpa using h name hname
  rw [addMissing_eq, hnone]
  exact List.append_nil names

theorem roleNames_eq (d : Deployment) (policies : List Policy) :
    (roles d policies).map (·.name) = addMissing d.roles (policies.flatMap (·.roles)) := by
  rw [roles, List.map_map]
  exact List.map_id _

/-! ## Documents -/

/-- Nothing in the realm occurs twice, everything is found, and no role is missing. -/
structure Document.WellFormed (s : Settings) (d : Deployment) (context : Context)
    (doc : Document) : Prop where
  clients_nodup : (doc.clients.map (·.id)).Nodup
  roles_nodup : (doc.roles.map (·.name)).Nodup
  users_nodup : (doc.users.map (·.username)).Nodup
  clients_sorted : doc.clients.Pairwise fun c c' => (Text.compareIds c.id c'.id).isLE
  clients_found : ∀ service ∈ d.services, service.hasSidecar →
    ∃ secret, context.clientSecrets.lookup service.id = some secret ∧
      doc.client? (sidecarClientId service.id) =
        some (sidecarClient s (Policy.ofService service) secret)
  roles_eq : doc.roles.map (·.name) = d.roles
  service_roles : ∀ service ∈ d.services, ∀ role ∈ service.roles,
    (doc.roles.map (·.name)).count role = 1
  users_eq : doc.users.map (fun a => (a.username, a.realmRoles)) =
    d.users.map fun u => (u.username, s!"default-roles-{s.realm}" :: u.roles)
  user_roles : ∀ a ∈ doc.users, ∃ own, a.realmRoles = s!"default-roles-{s.realm}" :: own ∧
    ∀ role ∈ own, (doc.roles.map (·.name)).count role = 1

theorem users_eq_of_build (h : build s d context = .ok doc) :
    doc.users.map (fun a => (a.username, a.realmRoles)) =
      d.users.map fun u => (u.username, s!"default-roles-{s.realm}" :: u.roles) := by
  obtain ⟨-, pairs, users, -, husers, rfl⟩ := build_eq_ok_iff.1 h
  refine map_eq_map_of_mapM (fun u a ha => ?_) husers
  obtain ⟨credential, -, rfl⟩ := account_eq_ok_iff.1 ha
  rfl

theorem wellFormed_of_resolve {f : StackFile} (hf : f.WellFormed) (hresolve : f.resolve = .ok d)
    (h : build s d context = .ok doc) : doc.WellFormed s d context := by
  have hids := (StackFile.sound_of_resolve hf hresolve).guardedIds_nodup
  obtain ⟨hvalid, -, rfl⟩ := StackFile.resolve_eq_ok_iff.1 hresolve
  generalize hd : f.declaration.resolve f.settings.environment = d at h hids
  have husers := users_eq_of_build h
  have hnames : d.users.map (·.username) = f.declaration.users.map (·.username) := by
    rw [← hd]
    exact List.map_map
  have hroles : doc.roles.map (·.name) = d.roles := by
    obtain ⟨-, pairs, users, -, -, rfl⟩ := build_eq_ok_iff.1 h
    rw [roleNames_eq]
    refine addMissing_of_forall_mem fun role hrole => ?_
    obtain ⟨p, hp, hmem⟩ := List.mem_flatMap.1 hrole
    obtain ⟨service, hservice, rfl⟩ := List.mem_map.1 (Text.mem_sortById.1 hp)
    rw [← hd] at hservice ⊢
    exact hvalid.mem_roles (.inr ⟨service, (List.mem_filter.1 hservice).1, hmem⟩)
  have hcount : ∀ role, (∃ u ∈ d.users, role ∈ u.roles) ∨ (∃ service ∈ d.services,
      role ∈ service.roles) → (doc.roles.map (·.name)).count role = 1 := fun role hrole => by
    rw [hroles, ← hd]
    rw [← hd] at hrole
    exact List.count_eq_one_of_mem (f.declaration.roles_nodup _) (hvalid.mem_roles hrole)
  exact {
    clients_nodup := clientIds_nodup h hids
    roles_nodup := by
      rw [hroles, ← hd]
      exact f.declaration.roles_nodup _
    users_nodup := by
      have husernames := congrArg (List.map Prod.fst) husers
      rw [List.map_map, List.map_map] at husernames
      have hsame : doc.users.map (·.username) = d.users.map (·.username) := husernames
      rw [hsame, hnames]
      exact hf.declaration.usernames_nodup
    clients_sorted := by
      obtain ⟨pairs, -, hclients⟩ := clients_of_build h
      rw [hclients]
      exact Text.sortById_pairwise _ _
    clients_found := fun service hservice hsidecar =>
      client?_of_build h hids (Deployment.ofService_mem_policies hservice hsidecar)
    roles_eq := hroles
    service_roles := fun service hservice role hrole =>
      hcount role (.inr ⟨service, hservice, hrole⟩)
    users_eq := husers
    user_roles := fun a ha => by
      have hmem := List.mem_map_of_mem (f := fun a => (a.username, a.realmRoles)) ha
      rw [husers] at hmem
      obtain ⟨u, hu, heq⟩ := List.mem_map.1 hmem
      exact ⟨u.roles, (congrArg Prod.snd heq).symm, fun role hrole =>
        hcount role (.inl ⟨u, hu, hrole⟩)⟩ }

/-- A realm that was built for a stack file that resolved is well-formed. For any deployment with
distinct roles, the realm has these roles first, and then each role that only policies name, once
and in the order in which they name it first. -/
theorem wellFormed_of_build :
    (∀ source data f d, StackFile.ofData source data = .ok f → f.resolve = .ok d →
      ∀ s context doc, build s d context = .ok doc → doc.WellFormed s d context) ∧
    ∀ (d : Deployment) (policies : List Policy), d.roles.Nodup →
      (roles d policies).map (·.name) =
        d.roles ++ ((policies.flatMap (·.roles)).filter (· ∉ d.roles)).eraseDups ∧
      ((roles d policies).map (·.name)).Nodup := by
  refine ⟨fun source data f d hf hresolve s context doc h => ?_, fun d policies hroles => ?_⟩
  · exact wellFormed_of_resolve (StackFile.wellFormed_of_ofData hf) hresolve h
  · rw [roleNames_eq]
    exact ⟨addMissing_eq, nodup_addMissing hroles⟩

/-- A stack with a guarded service and a user, as it is read. -/
def accountData : Data := .record [
  ("stack", .record [
    ("deploymentId", .str "demo"), ("environment", .str "local"), ("keycloakRealm", .str "main")]),
  ("users", .list [.record [
    ("username", .str "ann"), ("password", .str "winter"), ("roles", .strs ["dev"])]]),
  ("services", .record [("demo", .record [("requiredRoles", .strs ["dev"])])])]

def accountContext : Context where
  portalClientSecret := "portal-secret"
  clientSecrets := [("demo", "one")]
  credentials := [("ann", { secretData := "", credentialData := "" })]

/-- Two roles that only a policy names, one of them twice, are added to the realm of the stack. -/
theorem wellFormed_of_build_account :
    StackFile.ofData "<memory>" accountData = .ok (Artifacts.accountFile "winter") ∧
      (∃ doc, build (Artifacts.accountFile "winter").settings Artifacts.accountDeployment
          accountContext = .ok doc ∧
        doc.WellFormed (Artifacts.accountFile "winter").settings Artifacts.accountDeployment
          accountContext) ∧
      (roles Artifacts.accountDeployment [⟨"docs", "docs", ["ops", "dev", "ops", "qa"]⟩]).map
        (·.name) = ["dev", "ops", "qa"] := by
  have hf : StackFile.ofData "<memory>" accountData = .ok (Artifacts.accountFile "winter") :=
    toOption_eq_some_iff.1 (by decide +kernel)
  obtain ⟨doc, hdoc⟩ : ∃ doc, build (Artifacts.accountFile "winter").settings
      Artifacts.accountDeployment accountContext = .ok doc :=
    exists_build (by decide) (by decide +kernel) (by decide)
  refine ⟨hf, ⟨doc, hdoc, ?_⟩, ?_⟩
  · exact wellFormed_of_build.1 _ _ _ _ hf (Artifacts.resolve_accountFile (.inl rfl)) _ _ _ hdoc
  · rw [(wellFormed_of_build.2 _ _ (by decide)).1]
    decide +kernel

end Realm

end StackCompiler
