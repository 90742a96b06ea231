import StackCompiler.Proofs.Realm.WellFormed

/-!
# What resolution keeps

Resolution keeps all that a declaration says (`Declaration.KeptBy`): each service and each user is
there with the fields that it was given, and the roles are the declared ones, or else those that are
mentioned. All that resolution adds is a fixed point of it: a deployment that is written down as a
declaration resolves to itself (`Declaration.resolve_lossless`). The order of roles is only
determined where no two of them have one key, so roles that nobody declared need that.
-/

namespace StackCompiler

/-! ## What is kept -/

/-- A service has the fields that were given. -/
structure ServiceEntry.KeptBy (e : ServiceEntry) (s : Service) : Prop where
  displayName : ∀ name ∈ e.displayName, s.displayName = name
  host : ∀ host ∈ e.host, s.host = host
  roles : ∀ roles ∈ e.roles, s.roles = roles
  access : ∀ access ∈ e.access, s.access = access
  group : s.group = e.group
  icon : s.icon = e.icon
  description : s.description = e.description

/-- A user has the name, the roles and the texts that were given and are not empty. -/
structure UserEntry.KeptBy (entry : UserEntry) (u : User) : Prop where
  username : u.username = entry.username
  roles : u.roles = entry.roles
  email : ∀ email ∈ entry.email, email ≠ "" → u.email = email
  firstName : ∀ name ∈ entry.firstName, name ≠ "" → u.firstName = name
  lastName : ∀ name ∈ entry.lastName, name ≠ "" → u.lastName = name

namespace Declaration

/-- The roles are those that were declared, or else those that users and services mention. -/
def HasRole (d : Declaration) (role : String) : Prop :=
  match d.roles with
  | some listed => role ∈ listed
  | none => (∃ u ∈ d.users, role ∈ u.roles) ∨ ∃ e ∈ d.services, role ∈ e.2.roles.getD []

/-- The list has each role of the declaration once, in order. -/
structure ListsRoles (d : Declaration) (roles : List String) : Prop where
  nodup : roles.Nodup
  sorted : roles.Pairwise fun role role' => (Text.compareIds role role').isLE
  mem_iff : ∀ role, role ∈ roles ↔ d.HasRole role

/-- A deployment has all that was declared, in order, and nothing that was not. -/
structure KeptBy (environment : String) (d : Declaration) (r : Deployment) : Prop where
  environment : r.environment = environment
  ids : (r.services.map (·.id)).Perm (d.services.map (·.1))
  ids_sorted : r.services.Pairwise fun s s' => (Text.compareIds s.id s'.id).isLE
  service : ∀ e ∈ d.services, ∃! s, s ∈ r.services ∧ s.id = e.1
  services : ∀ s ∈ r.services, ∃ e, (s.id, e) ∈ d.services ∧ e.KeptBy s
  users : List.Forall₂ UserEntry.KeptBy d.users r.users
  rolesExplicit : r.rolesExplicit = d.roles.isSome
  roles : d.ListsRoles r.roles

end Declaration

/-! ## Services and users -/

theorem orElseText_of_ne_empty {s other : String} (h : s ≠ "") : orElseText (some s) other = s :=
  if_neg (by simpa using h)

/-- A text that was inferred is kept when it is given, even if it is empty. -/
theorem orElseText_orElseText (given : Option String) (other : String) :
    orElseText (some (orElseText given other)) other = orElseText given other := by
  by_cases h : orElseText given other = ""
  · have hother : other = "" := by
      cases given with
      | none => exact h
      | some s =>
        by_cases hs : s = ""
        · rwa [hs] at h
        · exact absurd ((orElseText_of_ne_empty hs).symm.trans h) hs
    rw [h, hother]
    rfl
  · exact orElseText_of_ne_empty h

theorem ServiceEntry.keptBy_resolve (id : String) (e : ServiceEntry) : e.KeptBy (e.resolve id) where
  displayName name h := by rw [resolve, h, Option.getD_some]
  host host h := by rw [resolve, h, Option.getD_some]
  roles roles h := by rw [resolve, h, Option.getD_some]
  access access h := by rw [resolve, h, Option.getD_some]
  group := rfl
  icon := rfl
  description := rfl

theorem UserEntry.keptBy_resolve (environment : String) (u : UserEntry) :
    u.KeptBy (u.resolve environment) where
  username := rfl
  roles := rfl
  email email h hne := by rw [resolve, h, orElseText_of_ne_empty hne]
  firstName name h hne := by rw [resolve, h, orElseText_of_ne_empty hne]
  lastName name h hne := by rw [resolve, h, orElseText_of_ne_empty hne]

namespace Declaration

variable {environment role : String} {d : Declaration}

theorem mem_services_resolve {s : Service} : s ∈ (d.resolve environment).services ↔
    ∃ e, (s.id, e) ∈ d.services ∧ e.resolve s.id = s := by
  change s ∈ (Text.sortById (·.1) d.services).map (fun e => e.2.resolve e.1) ↔ _
  rw [List.mem_map]
  constructor
  · rintro ⟨e, he, rfl⟩
    exact ⟨e.2, Text.mem_sortById.1 he, rfl⟩
  · rintro ⟨e, he, hs⟩
    exact ⟨(s.id, e), Text.mem_sortById.2 he, hs⟩

/-! ## Roles -/

/-- Resolution changes neither the roles of users nor those of services. -/
theorem mem_mentionedRoles_resolve (environment : String) :
    role ∈ mentionedRoles d.users (d.services.map (·.2)) ↔
      (∃ u ∈ (d.resolve environment).users, role ∈ u.roles) ∨
        ∃ s ∈ (d.resolve environment).services, role ∈ s.roles := by
  rw [mem_mentionedRoles_iff]
  refine or_congr ?_ ?_
  · constructor
    · rintro ⟨u, hu, h⟩
      exact ⟨u.resolve environment, List.mem_map_of_mem hu, h⟩
    · rintro ⟨_, hmem, h⟩
      obtain ⟨u, hu, rfl⟩ := List.mem_map.1 hmem
      exact ⟨u, hu, h⟩
  · constructor
    · rintro ⟨_, hmem, h⟩
      obtain ⟨e, he, rfl⟩ := List.mem_map.1 hmem
      exact ⟨e.2.resolve e.1, mem_services_resolve.2 ⟨e.2, he, rfl⟩, h⟩
    · rintro ⟨s, hs, h⟩
      obtain ⟨e, he, hresolve⟩ := mem_services_resolve.1 hs
      rw [← hresolve] at h
      exact ⟨e, List.mem_map.2 ⟨_, he, rfl⟩, h⟩

theorem listsRoles_sortIds {gathered : List String} (hnodup : gathered.Nodup)
    (h : ∀ role, role ∈ gathered ↔ d.HasRole role) : d.ListsRoles (Text.sortIds gathered) where
  nodup := (Text.sortById_perm id gathered).nodup_iff.2 hnodup
  sorted := Text.sortById_pairwise id gathered
  mem_iff role := Text.mem_sortIds.trans (h role)

/-- The roles that are sorted when a declaration is resolved. -/
def gatheredRoles (d : Declaration) : List String :=
  match d.roles with
  | some listed => listed.eraseDups
  | none => mentionedRoles d.users (d.services.map (·.2))

theorem roles_resolve (environment : String) (d : Declaration) :
    (d.resolve environment).roles = Text.sortIds d.gatheredRoles := by
  change realmRoles d.roles d.users (d.services.map (·.2)) = _
  unfold gatheredRoles
  cases d.roles <;> rfl

theorem gatheredRoles_eq_eraseDups {listed : List String} (h : d.roles = some listed) :
    d.gatheredRoles = listed.eraseDups := by
  rw [gatheredRoles, h]

theorem gatheredRoles_eq_mentionedRoles (h : d.roles = none) :
    d.gatheredRoles = mentionedRoles d.users (d.services.map (·.2)) := by
  rw [gatheredRoles, h]

theorem nodup_gatheredRoles (d : Declaration) : d.gatheredRoles.Nodup := by
  unfold gatheredRoles
  split <;> exact nodup_eraseDups _

theorem mem_gatheredRoles : role ∈ d.gatheredRoles ↔ d.HasRole role := by
  unfold gatheredRoles HasRole
  split
  · exact List.mem_eraseDups
  · rw [mem_mentionedRoles_iff]
    simp only [List.mem_map, exists_exists_and_eq_and]

theorem listsRoles_resolve (environment : String) (d : Declaration) :
    d.ListsRoles (d.resolve environment).roles := by
  rw [roles_resolve]
  exact listsRoles_sortIds d.nodup_gatheredRoles fun _ => mem_gatheredRoles

theorem keptBy_resolve (environment : String) (h : (d.services.map (·.1)).Nodup) :
    d.KeptBy environment (d.resolve environment) where
  environment := rfl
  ids := d.ids_resolve_perm environment
  ids_sorted := d.services_pairwise environment
  service e he := by
    refine ⟨e.2.resolve e.1, ⟨mem_services_resolve.2 ⟨e.2, he, rfl⟩, rfl⟩, ?_⟩
    rintro s ⟨hs, hid⟩
    obtain ⟨e', he', hresolve⟩ := mem_services_resolve.1 hs
    have hsame : (s.id, e') = e := List.inj_on_of_nodup_map h he' he hid
    rw [← hsame, hresolve]
  services s hs := by
    obtain ⟨e, he, hresolve⟩ := mem_services_resolve.1 hs
    refine ⟨e, he, ?_⟩
    rw [← hresolve]
    exact e.keptBy_resolve s.id
  users := List.forall₂_map_right_iff.2
    (List.forall₂_same.2 fun u _ => u.keptBy_resolve environment)
  rolesExplicit := rfl
  roles := d.listsRoles_resolve environment

end Declaration

/-! ## Writing a deployment down -/

/-- A service as it is declared with every field. -/
def Service.entry (s : Service) : ServiceEntry where
  displayName := some s.displayName
  host := some s.host
  roles := some s.roles
  access := some s.access
  group := s.group
  icon := s.icon
  description := s.description

/-- A user as it is declared with every field; passwords are no part of a deployment. -/
def User.entry (u : User) : UserEntry where
  username := u.username
  email := some u.email
  firstName := some u.firstName
  lastName := some u.lastName
  roles := u.roles

/-- The declaration that says all of a deployment. Roles are declared only where they were. -/
def Deployment.declaration (d : Deployment) : Declaration where
  roles := if d.rolesExplicit then some d.roles else none
  users := d.users.map (·.entry)
  services := d.services.map fun s => (s.id, s.entry)

attribute [ext] Deployment

theorem UserEntry.resolve_entry_resolve (environment : String) (u : UserEntry) :
    (u.resolve environment).entry.resolve environment = u.resolve environment := by
  simp only [resolve, User.entry, orElseText_orElseText]

namespace Declaration

variable {environment : String} {d : Declaration}

theorem wellFormed_declaration (environment : String) (h : d.WellFormed) :
    (d.resolve environment).declaration.WellFormed where
  services_nodup := by
    have hids : (d.resolve environment).declaration.services.map (·.1) =
        (d.resolve environment).services.map (·.id) := List.map_map
    rw [hids]
    exact (d.ids_resolve_perm environment).nodup_iff.2 h.services_nodup
  usernames_nodup := by
    have hnames : (d.resolve environment).declaration.users.map (·.username) =
        d.users.map (·.username) := by
      change ((d.users.map _).map _).map _ = _
      rw [List.map_map, List.map_map]
      rfl
    rw [hnames]
    exact h.usernames_nodup

theorem users_resolve_declaration (environment : String) (d : Declaration) :
    ((d.resolve environment).declaration.resolve environment).users =
      (d.resolve environment).users := by
  change ((d.users.map (·.resolve environment)).map (·.entry)).map (·.resolve environment) =
    d.users.map (·.resolve environment)
  rw [List.map_map, List.map_map]
  exact List.map_congr_left fun u _ => u.resolve_entry_resolve environment

theorem services_resolve_declaration (environment : String) (d : Declaration) :
    ((d.resolve environment).declaration.resolve environment).services =
      (d.resolve environment).services := by
  generalize hr : d.resolve environment = r
  have hsorted : (r.services.map fun s => (s.id, s.entry)).Pairwise fun e e' =>
      (Text.compareIds e.1 e'.1).isLE := by
    rw [← hr]
    exact List.pairwise_map.2 (d.services_pairwise environment)
  change (Text.sortById (·.1) (r.services.map fun s => (s.id, s.entry))).map
    (fun e => e.2.resolve e.1) = r.services
  rw [Text.sortById_of_pairwise hsorted, List.map_map]
  exact List.map_id r.services

theorem roles_resolve_declaration (environment : String)
    (h : d.roles = none → Text.HasDistinctKeys d.gatheredRoles) :
    ((d.resolve environment).declaration.resolve environment).roles =
      (d.resolve environment).roles := by
  have hwritten : (d.resolve environment).declaration.roles =
      if d.roles.isSome then some (d.resolve environment).roles else none := rfl
  have hlists := d.listsRoles_resolve environment
  cases hroles : d.roles with
  | some listed =>
    rw [hroles] at hwritten
    rw [roles_resolve, gatheredRoles_eq_eraseDups hwritten, eraseDups_of_nodup hlists.nodup]
    exact Text.sortById_of_pairwise hlists.sorted
  | none =>
    rw [hroles] at hwritten
    rw [roles_resolve, roles_resolve environment d]
    refine (Text.sortIds_eq_of_mem_iff d.nodup_gatheredRoles (nodup_gatheredRoles _) (fun role => ?_)
      (h hroles)).symm
    rw [gatheredRoles_eq_mentionedRoles hwritten, gatheredRoles_eq_mentionedRoles hroles,
      mem_mentionedRoles_resolve environment, mem_mentionedRoles_resolve environment,
      users_resolve_declaration, services_resolve_declaration]

/-- A deployment keeps all that the declaration says, and it resolves to itself when it is written
down, if the roles that were not declared but mentioned have distinct keys. In whichever order roles
are gathered, sorting them lists the roles of the declaration; with distinct keys it gives those of
the deployment. -/
theorem resolve_lossless (environment : String) {d : Declaration} (h : d.WellFormed) :
    d.KeptBy environment (d.resolve environment) ∧
    (∀ gathered : List String, gathered.Nodup → (∀ role, role ∈ gathered ↔ d.HasRole role) →
      d.ListsRoles (Text.sortIds gathered) ∧
      (Text.HasDistinctKeys gathered →
        Text.sortIds gathered = (d.resolve environment).roles)) ∧
    ((d.roles = none → ∀ role, d.HasRole role → ∀ role', d.HasRole role' →
        Text.idKey role = Text.idKey role' → role = role') →
      (d.resolve environment).declaration.WellFormed ∧
        (d.resolve environment).declaration.resolve environment = d.resolve environment) := by
  refine ⟨keptBy_resolve environment h.services_nodup, fun gathered hnodup hmem => ⟨?_, ?_⟩,
    fun hkeys => ⟨wellFormed_declaration environment h, ?_⟩⟩
  · exact listsRoles_sortIds hnodup hmem
  · intro hkeys
    rw [roles_resolve]
    exact Text.sortIds_eq_of_mem_iff hnodup d.nodup_gatheredRoles
      (fun role => (hmem role).trans mem_gatheredRoles.symm) hkeys
  · have hroles := roles_resolve_declaration environment fun hnone a ha b hb =>
      hkeys hnone a (mem_gatheredRoles.1 ha) b (mem_gatheredRoles.1 hb)
    have hexplicit : ((d.resolve environment).declaration.resolve environment).rolesExplicit =
        (d.resolve environment).rolesExplicit := by
      change (if d.roles.isSome then some (d.resolve environment).roles else none).isSome =
        d.roles.isSome
      cases d.roles <;> rfl
    exact Deployment.ext rfl hroles hexplicit (users_resolve_declaration environment d)
      (services_resolve_declaration environment d)

/-- A declaration with empty texts, names in both cases and roles that are mentioned twice. -/
def sparse : Declaration where
  users := [
    { username := "ann", email := some "", firstName := some "Ann", roles := ["ops", "Dev"] },
    { username := "", roles := ["dev"] }]
  services := [
    ("docs", { displayName := some "", roles := some [] }),
    ("Docs", { host := some "", roles := some ["Dev", "dev"], access := some .inApp }),
    ("app2", {}),
    ("app10", { roles := some ["qa"], group := some "Tools" })]

theorem resolve_lossless_sparse :
    sparse.KeptBy "local" (sparse.resolve "local") ∧
      Text.sortIds ["qa", "Dev", "dev", "ops"] = (sparse.resolve "local").roles ∧
      (sparse.resolve "local").declaration.resolve "local" = sparse.resolve "local" := by
  have hroles : ∀ role, role ∈ ["qa", "Dev", "dev", "ops"] ↔ sparse.HasRole role := fun role => by
    rw [← mem_gatheredRoles]
    exact List.Perm.mem_iff (by decide +kernel)
  obtain ⟨hkept, hgathered, hwritten⟩ := resolve_lossless "local" (d := sparse)
    ⟨by decide, by decide⟩
  have hkeys : Text.HasDistinctKeys ["qa", "Dev", "dev", "ops"] := by decide +kernel
  exact ⟨hkept, (hgathered _ (by decide) hroles).2 hkeys, (hwritten fun _ role h role' h' =>
    hkeys role ((hroles role).2 h) role' ((hroles role').2 h')).2⟩

end Declaration
end StackCompiler
