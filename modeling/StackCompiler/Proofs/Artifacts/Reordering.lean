import StackCompiler.Proofs.Artifacts.Compiling
import StackCompiler.Proofs.Deployment.Rules
import StackCompiler.Proofs.Descriptor.Generation
import StackCompiler.Proofs.Text.Ascii

/-!
# The order of a declaration

The order in which services are declared has no effect: the services of a deployment are sorted by
their ids, and its roles are sorted names. Only where the roles are no slugs could the order in which
they are found matter, and then nothing is compiled. `Artifacts.compile_of_reordered` says so for
services, and for the list of declared roles.
-/

namespace StackCompiler

open Session

/-! ## Declarations in another order -/

namespace StackFile

/-- The files differ only in the order of their services, which have different ASCII ids. -/
structure SameButOrder (f g : StackFile) : Prop where
  settings : g.settings = f.settings
  roles : g.declaration.roles = f.declaration.roles
  users : g.declaration.users = f.declaration.users
  perm : g.declaration.services.Perm f.declaration.services
  nodup : (f.declaration.services.map (·.1)).Nodup
  ascii : ∀ e ∈ f.declaration.services, Text.IsAscii e.1

/-- The stack file with a list of roles declared. -/
def withRoles (f : StackFile) (roles : List String) : StackFile :=
  { f with declaration := { f.declaration with roles := some roles } }

end StackFile

/-! ## Resolution -/

namespace Declaration

variable {d d' : Declaration} {environment : String} {known : List String}

/-- The services of a deployment are in the same order for every order of their declarations. -/
theorem services_of_perm (hperm : d'.services.Perm d.services)
    (hnodup : (d.services.map (·.1)).Nodup) (hascii : ∀ e ∈ d'.services, Text.IsAscii e.1) :
    (d'.resolve environment).services = (d.resolve environment).services := by
  have hnodup' : (d'.services.map (·.1)).Nodup := (hperm.map _).nodup_iff.2 hnodup
  have hsorted : Text.sortById (·.1) d'.services = Text.sortById (·.1) d.services :=
    Text.sortById_eq_of_perm_of_isAscii hperm hnodup' hascii
  unfold resolve
  rw [hsorted]

theorem resolve_congr (hroles : d'.roles = d.roles) (husers : d'.users = d.users)
    (hservices : (d'.resolve environment).services = (d.resolve environment).services)
    (hrealm : (d'.resolve environment).roles = (d.resolve environment).roles) :
    d'.resolve environment = d.resolve environment := by
  have hfields : d'.resolve environment = {
      environment
      roles := (d'.resolve environment).roles
      rolesExplicit := d'.roles.isSome
      users := d'.users.map (·.resolve environment)
      services := (d'.resolve environment).services } := rfl
  rw [hfields, hrealm, hservices, hroles, husers]
  rfl

/-! ## Validation -/

/-- Roles that nobody declared forbid none. -/
theorem rolesNotAllowed_of_inferred (h : d.roles = none) :
    (d.resolve environment).rolesNotAllowed = [] := by
  have hinferred : ¬(d.resolve environment).rolesExplicit := by
    change ¬d.roles.isSome
    rw [h]
    exact Bool.false_ne_true
  unfold Deployment.rolesNotAllowed
  rw [if_neg hinferred]

theorem rolesNotAllowed_congr (hroles : d'.roles = d.roles) (husers : d'.users = d.users)
    (hservices : (d'.resolve environment).services = (d.resolve environment).services) :
    (d'.resolve environment).rolesNotAllowed = (d.resolve environment).rolesNotAllowed := by
  cases hlisted : d.roles with
  | none => rw [rolesNotAllowed_of_inferred hlisted, rolesNotAllowed_of_inferred (hroles ▸ hlisted)]
  | some listed =>
    have hrealm : (d'.resolve environment).roles = (d.resolve environment).roles := by
      unfold resolve
      rw [hroles, hlisted]
      rfl
    rw [resolve_congr hroles husers hservices hrealm]

/-- Which rules are broken depends on the declared roles, the users and the resolved services. -/
theorem violations_congr (hroles : d'.roles = d.roles) (husers : d'.users = d.users)
    (hservices : (d'.resolve environment).services = (d.resolve environment).services) :
    d'.violations known environment = d.violations known environment := by
  have hallowed := rolesNotAllowed_congr hroles husers hservices
  have hinvalidUsers : (d'.resolve environment).invalidUsers =
      (d.resolve environment).invalidUsers := by
    unfold resolve
    rw [husers]
    rfl
  unfold violations
  simp only [hallowed, hinvalidUsers, Deployment.unknownServices, Deployment.invalidNames,
    Deployment.claimedHosts, Deployment.unfitAccess, Deployment.sharedHosts, Deployment.hosts,
    Deployment.owners, invalidRoles, hservices, hroles]
  rfl

/-! ## Roles -/

theorem isAscii_of_mentioned {role : String}
    (huserRoles : ∀ u ∈ d.users, ∀ r ∈ u.roles, Text.isSlug r)
    (hserviceRoles : ∀ s ∈ (d.resolve environment).services, ∀ r ∈ s.roles, Text.isSlug r)
    (h : role ∈ d.users.flatMap (·.roles) ++ (d.services.map (·.2)).flatMap (·.roles.getD [])) :
    Text.IsAscii role := by
  refine Text.isAscii_of_isSlug ?_
  rcases List.mem_append.1 h with h | h
  · obtain ⟨u, hu, hrole⟩ := List.mem_flatMap.1 h
    exact huserRoles u hu role hrole
  · obtain ⟨e, he, hrole⟩ := List.mem_flatMap.1 h
    obtain ⟨⟨id, e⟩, hentry, rfl⟩ := List.mem_map.1 he
    have hresolved : e.resolve id ∈ (d.resolve environment).services :=
      List.mem_map_of_mem (Text.mem_sortById.2 hentry)
    exact hserviceRoles _ hresolved role hrole

/-- Roles that are all slugs are sorted in one way. -/
theorem roles_of_perm (hroles : d'.roles = d.roles) (husers : d'.users = d.users)
    (hperm : d'.services.Perm d.services)
    (huserRoles : ∀ u ∈ d.users, ∀ r ∈ u.roles, Text.isSlug r)
    (hserviceRoles : ∀ s ∈ (d.resolve environment).services, ∀ r ∈ s.roles, Text.isSlug r) :
    (d'.resolve environment).roles = (d.resolve environment).roles := by
  unfold resolve
  rw [hroles, husers]
  cases d.roles with
  | some listed => rfl
  | none =>
    have hmem : ∀ r, r ∈ d.users.flatMap (·.roles) ++
        (d'.services.map (·.2)).flatMap (·.roles.getD []) ↔ r ∈ d.users.flatMap (·.roles) ++
          (d.services.map (·.2)).flatMap (·.roles.getD []) := fun r => by
      simp [hperm.mem_iff]
    exact Text.sortIds_eraseDups_eq hmem fun r hr =>
      isAscii_of_mentioned huserRoles hserviceRoles ((hmem r).1 hr)

end Declaration

/-! ## Compiling -/

namespace Documents

variable {hashing : Hashing} {f g : StackFile} {secrets : Secrets} {a : Artifacts}
  {docs : Documents}

/-- Documents are made from the settings, the users and the deployment of a stack file. -/
theorem Make.of_resolve (h : docs.Make hashing f secrets a) (hsettings : g.settings = f.settings)
    (husers : g.declaration.users = f.declaration.users) (hresolve : g.resolve = f.resolve) :
    docs.Make hashing g secrets a := by
  have hrouting : g.routingDocument docs.deployment = f.routingDocument docs.deployment := by
    unfold StackFile.routingDocument
    rw [hsettings]
  have hrealm : g.realmDocument hashing secrets docs.deployment =
      f.realmDocument hashing secrets docs.deployment := by
    unfold StackFile.realmDocument Declaration.credentials
    rw [hsettings, husers]
  have hinline : g.inlineDescriptor docs.descriptor = f.inlineDescriptor docs.descriptor := by
    unfold StackFile.inlineDescriptor
    rw [hsettings]
  exact ⟨hresolve.trans h.deployment, hrouting.trans h.routing, hrealm.trans h.realm,
    hsettings ▸ h.sidecars, hsettings ▸ h.descriptor, hinline.trans h.inline, h.routing_text,
    h.realm_text, h.sidecar_texts, h.descriptor_text⟩

/-- The roles of all services of a stack that was compiled are slugs: those of guarded services
because the descriptor has a schema, and other services have none. -/
theorem Make.roles_slug (h : docs.Make hashing f secrets a) :
    ∀ s ∈ docs.deployment.services, ∀ r ∈ s.roles, Text.isSlug r := by
  intro s hs r hr
  obtain ⟨hvalid, -, hdeployment⟩ := StackFile.resolve_eq_ok_iff.1 h.deployment
  obtain ⟨entries, hsort, hdraft, hdescriptor⟩ := Descriptor.generate_eq_ok_iff.1 h.descriptor
  have hmem : Descriptor.entryOf f.settings s ∈ docs.descriptor.services := by
    rw [hdraft]
    exact (Descriptor.perm_of_sortByName hsort).mem_iff.2 (List.mem_map_of_mem hs)
  have hentry := hdescriptor.services _ hmem
  by_cases hguarded : s.isGuarded
  · exact (hentry.roles_slug s.roles (if_pos hguarded)).2 r hr
  · have hfree : s.access = .free := by simpa [Service.isGuarded] using hguarded
    rw [(hvalid.access s (hdeployment ▸ hs)).1 hfree] at hr
    exact absurd hr List.not_mem_nil

end Documents

namespace StackFile

variable {f g : StackFile} {hashing : Hashing} {secrets : Secrets} {a : Artifacts}
  {docs : Documents}

/-! ## Services in another order -/

namespace SameButOrder

theorem symm (h : f.SameButOrder g) : g.SameButOrder f :=
  ⟨h.settings.symm, h.roles.symm, h.users.symm, h.perm.symm, (h.perm.map _).nodup_iff.2 h.nodup,
    fun e he => h.ascii e (h.perm.mem_iff.1 he)⟩

theorem services_eq (h : f.SameButOrder g) (environment : String) :
    (g.declaration.resolve environment).services = (f.declaration.resolve environment).services :=
  Declaration.services_of_perm h.perm h.nodup fun e he => h.ascii e (h.perm.mem_iff.1 he)

theorem violations (h : f.SameButOrder g) : g.violations = f.violations := by
  have hservices := h.services_eq f.settings.environment
  have hpasswords : g.declaration.passwordViolations = f.declaration.passwordViolations := by
    unfold Declaration.passwordViolations
    rw [h.users]
  unfold StackFile.violations
  rw [h.settings, Declaration.violations_congr h.roles h.users hservices, hpasswords]

/-- Either both files resolve, or the same is found wrong with both. -/
theorem resolve_cases (h : f.SameButOrder g) :
    (∃ vs, f.resolve = .error (.violations .deployment vs) ∧
      g.resolve = .error (.violations .deployment vs)) ∨
    (∃ d, f.resolve = .ok d) ∧ ∃ d, g.resolve = .ok d := by
  unfold StackFile.resolve
  rw [h.violations]
  cases f.violations with
  | nil => exact .inr ⟨⟨_, rfl⟩, _, rfl⟩
  | cons v vs => exact .inl ⟨v :: vs, rfl, rfl⟩

theorem resolve_eq (h : f.SameButOrder g) (hmake : docs.Make hashing f secrets a) :
    g.resolve = f.resolve := by
  obtain ⟨hvalid, hpasswords, hdeployment⟩ := resolve_eq_ok_iff.1 hmake.deployment
  have hservices := h.services_eq f.settings.environment
  have huserRoles : ∀ u ∈ f.declaration.users, ∀ r ∈ u.roles, Text.isSlug r := fun u hu =>
    (hvalid.users _ (List.mem_map_of_mem hu)).2.2.2
  have hrealm := Declaration.roles_of_perm h.roles h.users h.perm huserRoles
    (hdeployment ▸ hmake.roles_slug)
  have hsame := Declaration.resolve_congr h.roles h.users hservices hrealm
  unfold StackFile.resolve
  rw [h.violations, h.settings, hsame]

theorem make (h : f.SameButOrder g) (hmake : docs.Make hashing f secrets a) :
    docs.Make hashing g secrets a :=
  hmake.of_resolve h.settings h.users (h.resolve_eq hmake)

end SameButOrder

/-! ## Declared roles in another order -/

theorem make_withRoles {roles roles' : List String} (hroles : f.declaration.roles = some roles)
    (hsame : ∀ r, r ∈ roles' ↔ r ∈ roles) (hmake : docs.Make hashing f secrets a) :
    docs.Make hashing (f.withRoles roles') secrets a := by
  obtain ⟨hvalid, hpasswords, hdeployment⟩ := resolve_eq_ok_iff.1 hmake.deployment
  obtain ⟨hslug, husers, hservices⟩ := hvalid.declared roles hroles
  have hsorted : Text.sortIds roles'.eraseDups = Text.sortIds roles.eraseDups :=
    Text.sortIds_eraseDups_eq hsame fun r hr => Text.isAscii_of_isSlug (hslug r ((hsame r).1 hr))
  have hresolved : (f.withRoles roles').declaration.resolve f.settings.environment =
      f.declaration.resolve f.settings.environment := by
    unfold Declaration.resolve withRoles realmRoles
    dsimp only
    rw [hsorted, hroles]
    rfl
  have hdeclared : ∀ listed, some roles' = some listed → (∀ r ∈ listed, Text.isSlug r) ∧
      (∀ u ∈ (f.declaration.resolve f.settings.environment).users, ∀ r ∈ u.roles, r ∈ listed) ∧
        ∀ s ∈ (f.declaration.resolve f.settings.environment).services, ∀ r ∈ s.roles,
          r ∈ listed := by
    rintro listed ⟨⟩
    refine ⟨fun r hr => hslug r ((hsame r).1 hr), fun u hu r hr => ?_, fun s hs r hr => ?_⟩
    · exact (hsame r).2 (husers u hu r hr)
    · exact (hsame r).2 (hservices s hs r hr)
  have hresolve : (f.withRoles roles').resolve = .ok docs.deployment :=
    resolve_eq_ok_iff.2 ⟨⟨hvalid.ids, hvalid.hosts, hvalid.hosts_nodup, hvalid.access, hdeclared,
      hvalid.users_allowed, hvalid.users⟩, hpasswords, hdeployment.trans hresolved.symm⟩
  exact hmake.of_resolve rfl rfl (hresolve.trans hmake.deployment.symm)

end StackFile

/-! ## The result -/

namespace Artifacts

/-- The order of the declared services, and the order and repetitions of the declared roles, have no
effect on what is found wrong with a stack file, or on its artifacts. -/
theorem compile_of_reordered {σ : Type} (hashing : Hashing) (secrets : Secrets) (f : StackFile) :
    (∀ g, f.SameButOrder g →
      ((∃ vs, f.resolve = .error (.violations .deployment vs) ∧
          g.resolve = .error (.violations .deployment vs)) ∨
        (∃ d, f.resolve = .ok d) ∧ ∃ d, g.resolve = .ok d) ∧
      ∀ (a : Artifacts) (t t' : Trail σ), ((compile hashing f secrets).exec t).1 = .ok a ↔
        ((compile hashing g secrets).exec t').1 = .ok a) ∧
    ∀ roles roles', f.declaration.roles = some roles → (∀ r, r ∈ roles' ↔ r ∈ roles) →
      ∀ (a : Artifacts) (t t' : Trail σ), ((compile hashing f secrets).exec t).1 = .ok a ↔
        ((compile hashing (f.withRoles roles') secrets).exec t').1 = .ok a := by
  refine ⟨fun g h => ⟨h.resolve_cases, fun a t t' => ?_⟩, fun roles roles' hroles hsame a t t' => ?_⟩
  · rw [exec_compile_eq_ok_iff, exec_compile_eq_ok_iff]
    constructor
    · rintro ⟨docs, hmake⟩
      exact ⟨docs, h.make hmake⟩
    · rintro ⟨docs, hmake⟩
      exact ⟨docs, h.symm.make hmake⟩
  · rw [exec_compile_eq_ok_iff, exec_compile_eq_ok_iff]
    constructor
    · rintro ⟨docs, hmake⟩
      exact ⟨docs, StackFile.make_withRoles hroles hsame hmake⟩
    · rintro ⟨docs, hmake⟩
      have hback : (f.withRoles roles').withRoles roles = f := by
        change { f with declaration := { f.declaration with roles := some roles } } = f
        rw [← hroles]
      exact ⟨docs, hback ▸ StackFile.make_withRoles rfl (fun r => (hsame r).symm) hmake⟩

/-! ## Two services in either order -/

/-- A stack with two services, given in some order. -/
def pairFile (services : List (String × ServiceEntry)) : StackFile where
  settings := { deploymentId := "demo", environment := "local", realm := "main" }
  declaration := { roles := some ["dev", "ops"], services }

def demoThenDocs : List (String × ServiceEntry) :=
  [("demo", {}), ("docs", { roles := some ["ops"] })]

def pairDeployment : Deployment where
  environment := "local"
  roles := ["dev", "ops"]
  rolesExplicit := true
  services := [
    { id := "demo", displayName := "Demo", host := "demo", access := .free },
    { id := "docs", displayName := "Docs", host := "docs", access := .proxy, roles := ["ops"] }]

def pairSecrets : Secrets where
  portalClientSecret := "portal-secret"
  clientSecrets := [("docs", "client-secret")]
  cookieSecrets := [("docs", "0123456789abcdef")]

def pairHashing : Hashing where
  salts _ := []

theorem resolve_pairFile : (pairFile demoThenDocs).resolve = .ok pairDeployment := by
  have hresolved : (pairFile demoThenDocs).declaration.resolve "local" = pairDeployment := by
    have hservices : Text.sortById (·.1) demoThenDocs = demoThenDocs :=
      Text.sortById_of_pairwise (by decide +kernel)
    have hroles : Text.sortIds ["dev", "ops"] = ["dev", "ops"] :=
      Text.sortById_of_pairwise (by decide +kernel)
    change Deployment.mk _ (Text.sortIds ["dev", "ops"]) _ _
      ((Text.sortById (·.1) demoThenDocs).map _) = _
    rw [hservices, hroles]
    decide +kernel
  have hvalid : (pairFile demoThenDocs).declaration.Valid Catalog.builtIn.ids "local" := by
    constructor
    all_goals rw [hresolved]
    · have hknown : ∀ s ∈ pairDeployment.services,
          s.id ∈ Catalog.builtIn.map (·.1) ∧ Text.isSlug s.id := by decide +kernel
      simpa [Catalog.ids] using hknown
    · decide +kernel
    · decide +kernel
    · decide +kernel
    · rintro listed ⟨⟩
      decide +kernel
    · exact fun h => absurd rfl h
    · decide +kernel
  exact StackFile.resolve_eq_ok_iff.2 ⟨hvalid, rfl, hresolved.symm⟩

theorem generate_pairDeployment : ∃ descriptor,
    Descriptor.generate (pairFile demoThenDocs).settings pairDeployment = .ok descriptor := by
  have hwell : (pairFile demoThenDocs).WellFormed :=
    ⟨⟨by decide +kernel, by decide +kernel, by decide +kernel⟩, ⟨by decide +kernel, List.nodup_nil⟩⟩
  have hsound := StackFile.sound_of_resolve hwell resolve_pairFile
  have hshort : pairDeployment.HasShortNumerals := by
    have hlengths : ∀ s ∈ pairDeployment.services,
        (Text.foldChars (s.group.getD "").toList).length ≤ Text.maxDigits ∧
          (Text.foldChars s.displayName.toList).length ≤ Text.maxDigits := by decide +kernel
    intro s hs
    obtain ⟨hgroup, hname⟩ := hlengths s hs
    exact ⟨Text.hasShortNumerals_of_length_le hgroup, Text.hasShortNumerals_of_length_le hname⟩
  have hdescribable : pairDeployment.Describable (pairFile demoThenDocs).settings := by
    have hall : ∀ s ∈ pairDeployment.services, '\n' ∉ s.host.toList ∧ s.displayName ≠ "" ∧
        s.group ≠ some "" ∧ s.icon ≠ some "" ∧ ∀ r ∈ s.roles, Text.isSlug r := by decide +kernel
    refine ⟨by decide, by decide, by decide, by decide, fun s hs => ?_⟩
    obtain ⟨hhost, hname, hgroup, hicon, hroles⟩ := hall s hs
    exact ⟨hhost, hname, hgroup, hicon, hroles⟩
  obtain ⟨descriptor, hgenerate, -⟩ :=
    Descriptor.generate_of_describable hwell.settings hsound hshort hdescribable
  exact ⟨descriptor, hgenerate⟩

/-- The services of the stack can be swapped, and its roles too, and one of them repeated. -/
theorem compile_pair_reordered :
    (pairFile demoThenDocs).SameButOrder (pairFile demoThenDocs.reverse) ∧
      ∃ a, ∀ f ∈ [pairFile demoThenDocs, pairFile demoThenDocs.reverse,
          (pairFile demoThenDocs).withRoles ["ops", "dev", "ops"]],
        ((compile pairHashing f pairSecrets).exec (⟨(), []⟩ : Trail Unit)).1 = .ok a := by
  obtain ⟨descriptor, hdescriptor⟩ := generate_pairDeployment
  have hcompile : ∃ a, ((compile pairHashing (pairFile demoThenDocs) pairSecrets).exec
      (⟨(), []⟩ : Trail Unit)).1 = .ok a :=
    exists_compile resolve_pairFile rfl (by decide +kernel) (by decide +kernel) (by decide +kernel)
      (by rw [hdescriptor]; rfl) _
  obtain ⟨a, ha⟩ := hcompile
  have hpair : (pairFile demoThenDocs).SameButOrder (pairFile demoThenDocs.reverse) :=
    ⟨rfl, rfl, rfl, demoThenDocs.reverse_perm, by decide, by decide⟩
  obtain ⟨hservices, hroles⟩ :=
    @compile_of_reordered Unit pairHashing pairSecrets (pairFile demoThenDocs)
  obtain ⟨-, hcompile⟩ := hservices _ hpair
  refine ⟨hpair, a, fun f hf => ?_⟩
  simp only [List.mem_cons, List.not_mem_nil, or_false] at hf
  rcases hf with rfl | rfl | rfl
  · exact ha
  · exact (hcompile a _ _).1 ha
  · exact (hroles _ ["ops", "dev", "ops"] rfl (fun r => by simp; tauto) a _ _).1 ha

end Artifacts
end StackCompiler
