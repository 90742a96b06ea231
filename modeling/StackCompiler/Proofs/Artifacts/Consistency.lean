import StackCompiler.Proofs.Artifacts.Compiling
import StackCompiler.Proofs.Descriptor.Generation
import StackCompiler.Proofs.Realm
import StackCompiler.Proofs.Routing.Backends
import StackCompiler.Proofs.Sidecar

/-!
# The artifacts of a stack fit together

Four generators find out on their own which services have a sidecar, under which addresses services
are reached, and which secrets they share. `Documents.Consistent` says that they agree, and
`Artifacts.consistent_of_compile` that they do for every stack file and all secrets.
-/

namespace StackCompiler

/-! ## Services with a sidecar -/

namespace Deployment

variable {d : Deployment} {known : List String} {s : Service}

theorem guardedIds_perm (d : Deployment) : d.guardedIds.Perm d.protectedIds := by
  refine (Text.map_sortById_perm _ _ _).trans ?_
  rw [List.map_map]
  exact .refl _

theorem ofService_mem_policies (hs : s ∈ d.services) (hsidecar : s.hasSidecar) :
    Policy.ofService s ∈ d.policies :=
  Text.mem_sortById.2 (List.mem_map_of_mem (List.mem_filter.2 ⟨hs, hsidecar⟩))

theorem Sound.protectedIds_nodup (h : d.Sound known) : d.protectedIds.Nodup :=
  h.ids_nodup.sublist (List.filter_sublist.map _)

theorem Sound.guardedIds_nodup (h : d.Sound known) : d.guardedIds.Nodup :=
  d.guardedIds_perm.nodup_iff.2 h.protectedIds_nodup

theorem Sound.hasSidecar_of_mem (h : d.Sound known) (hs : s ∈ d.services)
    (hid : s.id ∈ d.protectedIds) : s.hasSidecar := by
  obtain ⟨s', hs', heq⟩ := List.mem_map.1 hid
  obtain ⟨hmem, hsidecar⟩ := List.mem_filter.1 hs'
  rwa [← List.inj_on_of_nodup_map h.ids_nodup hmem hs heq]

theorem mem_protectedIds (hs : s ∈ d.services) (hsidecar : s.hasSidecar) : s.id ∈ d.protectedIds :=
  List.mem_map_of_mem (List.mem_filter.2 ⟨hs, hsidecar⟩)

end Deployment

/-! ## Consistent documents -/

/-- Where requests for a host are sent. -/
def Routing.Document.target? (doc : Routing.Document) (host : String) : Option String :=
  (doc.routers.lookup (Routing.routerName host)).bind fun r => doc.backends.lookup r.backend

/-- The sidecar of a service signs in at the client that the realm has for it, and is reached where
the portal says that the service is. -/
structure Documents.SignsIn (settings : Settings) (docs : Documents) (s : Service)
    (env : SidecarEnvironment) (client : Realm.Client) (entry : Descriptor.Entry) : Prop where
  env_found : docs.sidecars.find? (·.id == s.id) = some env
  client_found : docs.realm.client? (sidecarClientId s.id) = some client
  entry_found : docs.descriptor.services.find? (·.id == s.id) = some entry
  clientId : env.get? "CLIENT_ID" = some client.id
  clientSecret : env.get? "CLIENT_SECRET" = some client.secret
  redirectUrl : env.get? "REDIRECT_URL" = some (entry.url ++ "/oauth2/callback")
  redirectUris : client.redirectUris = [entry.url ++ "/oauth2/callback"]
  url : entry.url = settings.url s.host
  upstream : ∃ port, Catalog.builtIn.port? s.id = some port ∧
    env.get? "UPSTREAMS" = some (Routing.serverUrl ⟨settings.container s.id, port⟩ ++ "/")
  groups : env.get? "ALLOWED_GROUPS" = entry.roles.map Policy.groups

/-- All documents have the same services behind a sidecar, and no request passes a sidecar by. -/
structure Documents.Consistent (settings : Settings) (docs : Documents) : Prop where
  ids_nodup : docs.deployment.protectedIds.Nodup
  hosts_nodup : (docs.deployment.services.map (·.host)).Nodup
  sidecars : (docs.sidecars.map (·.id)).Perm docs.deployment.protectedIds
  clients : (docs.realm.clients.map (·.id)).Perm
    (portalClientId :: docs.deployment.protectedIds.map sidecarClientId)
  entries : (docs.descriptor.workList.map (·.id)).Perm docs.deployment.protectedIds
  routers : (docs.routing.routers.map (·.1)).Perm (Routing.coreRouterNames ++
    (docs.deployment.services.map (·.host)).map Routing.routerName)
  rules : ∀ s ∈ docs.deployment.services, ∃ r,
    docs.routing.routers.lookup (Routing.routerName s.host) = some r ∧
      r.rule = Routing.hostRule settings s.host
  guarded_targets : ∀ s ∈ docs.deployment.services, s.id ∈ docs.deployment.protectedIds →
    docs.routing.target? s.host =
      some (Routing.serverUrl ⟨settings.container s!"{s.id}-oauth2-proxy", 4180⟩)
  other_targets : ∀ s ∈ docs.deployment.services, s.id ∉ docs.deployment.protectedIds →
    ∃ port, Catalog.builtIn.port? s.id = some port ∧
      docs.routing.target? s.host = some (Routing.serverUrl ⟨settings.container s.id, port⟩)
  no_bypass : ∀ r ∈ docs.routing.routers, ∀ url,
    docs.routing.backends.lookup r.2.backend = some url → ∀ id ∈ docs.deployment.protectedIds,
      ∀ port : Int, url ≠ Routing.serverUrl ⟨settings.container id, port⟩
  signIn : ∀ s ∈ docs.deployment.services, s.id ∈ docs.deployment.protectedIds →
    ∃ env client entry, docs.SignsIn settings s env client entry

/-! ## Routing -/

namespace Routing

variable {s : Settings} {d : Deployment} {routes : List RouteRequest} {service : Service}

theorem target?_document (hhosts : (routes.map (·.host)).Nodup) {r : RouteRequest}
    (hr : r ∈ routes) : (document s routes).target? r.host = some (serverUrl r.endpoint) := by
  rw [Document.target?, lookup_router hhosts hr, Option.bind_some]
  exact lookup_backend hhosts hr

section Requests

variable {catalog : Catalog} (hroutes : requests s catalog d = .ok routes)
  (hhosts : (routes.map (·.host)).Nodup) (hs : service ∈ d.services)

include hroutes hhosts hs

theorem exists_router : ∃ r, (document s routes).routers.lookup (routerName service.host) = some r ∧
    r.rule = hostRule s service.host := by
  obtain ⟨r, hr, hhost, -⟩ := exists_request hroutes hs
  rw [← hhost]
  exact ⟨_, lookup_router hhosts hr, rfl⟩

theorem exists_target : ∃ endpoint, service.endpoint? s catalog = some endpoint ∧
    (document s routes).target? service.host = some (serverUrl endpoint) := by
  obtain ⟨r, hr, hhost, hendpoint⟩ := exists_request hroutes hs
  rw [← hhost]
  exact ⟨r.endpoint, hendpoint, target?_document hhosts hr⟩

theorem target?_of_hasSidecar (hsidecar : service.hasSidecar) :
    (document s routes).target? service.host =
      some (serverUrl ⟨s.container s!"{service.id}-oauth2-proxy", 4180⟩) := by
  obtain ⟨endpoint, hendpoint, htarget⟩ := exists_target hroutes hhosts hs
  rw [endpoint?_of_hasSidecar hsidecar, Option.some.injEq] at hendpoint
  rw [htarget, ← hendpoint]

theorem target?_of_not_hasSidecar (hsidecar : ¬service.hasSidecar) :
    ∃ port, catalog.port? service.id = some port ∧
      (document s routes).target? service.host =
        some (serverUrl ⟨s.container service.id, port⟩) := by
  obtain ⟨endpoint, hendpoint, htarget⟩ := exists_target hroutes hhosts hs
  obtain ⟨port, hport, rfl⟩ := endpoint?_of_not_hasSidecar hsidecar hendpoint
  exact ⟨port, hport, htarget⟩

end Requests

/-- No backend is the application behind a sidecar. -/
theorem backend_ne_application (hsound : d.Sound (Catalog.builtIn.map (·.1)))
    (hroutes : requests s Catalog.builtIn d = .ok routes) {name url : String}
    (hurl : (document s routes).backends.lookup name = some url) {id : String}
    (hid : id ∈ d.protectedIds) (port : Int) : url ≠ serverUrl ⟨s.container id, port⟩ := by
  obtain ⟨guarded, hguarded, rfl⟩ := List.mem_map.1 hid
  obtain ⟨hmem, hsidecar⟩ := List.mem_filter.1 hguarded
  have hnames : d.HasOwnNames := Deployment.hasOwnNames_of_catalog Catalog.hasOwnNames_builtIn
    fun service hservice => (hsound.services service hservice).known
  obtain ⟨-, hfree⟩ := (Deployment.hasOwnNames_iff hsound.ids_nodup).1 hnames
  obtain ⟨backendId, hbackend, port', rfl⟩ := exists_backendId hroutes hurl
  exact fun heq => hfree guarded hmem hsidecar (eq_of_serverUrl_container heq ▸ hbackend)

end Routing

/-! ## Consistency -/

namespace Descriptor

variable {settings : Settings} {d : Deployment} {descriptor : Descriptor} {known : List String}

theorem services_perm_of_generate (h : generate settings d = .ok descriptor) :
    descriptor.services.Perm (d.services.map (entryOf settings)) := by
  obtain ⟨entries, hsort, rfl, -⟩ := generate_eq_ok_iff.1 h
  exact perm_of_sortByName hsort

theorem workList_ids_perm (h : generate settings d = .ok descriptor) :
    (descriptor.workList.map (·.id)).Perm d.protectedIds := by
  have hperm := ((services_perm_of_generate h).filter (·.access == .proxy)).map (·.id)
  rw [List.filter_map, List.map_map] at hperm
  exact hperm

theorem find?_entry (hsound : d.Sound known) (h : generate settings d = .ok descriptor)
    {s : Service} (hs : s ∈ d.services) :
    descriptor.services.find? (·.id == s.id) = some (entryOf settings s) := by
  have hperm := services_perm_of_generate h
  have hnodup : (descriptor.services.map (·.id)).Nodup := by
    rw [(hperm.map _).nodup_iff, List.map_map]
    exact hsound.ids_nodup
  exact find?_eq_some_of_nodup (x := entryOf settings s) hnodup
    (hperm.mem_iff.2 (List.mem_map_of_mem hs))

end Descriptor

namespace Documents

variable {hashing : Hashing} {f : StackFile} {secrets : Secrets} {a : Artifacts} {docs : Documents}
  {s : Service}

theorem Make.realm_build (h : docs.Make hashing f secrets a) : ∃ context : Realm.Context,
    context.clientSecrets = secrets.clientSecrets ∧
      Realm.build f.settings docs.deployment context = .ok docs.realm := by
  obtain ⟨credentials, -, hbuild⟩ := bind_eq_ok.1 h.realm
  exact ⟨_, rfl, hbuild⟩

theorem signsIn (hwell : f.WellFormed) (h : docs.Make hashing f secrets a)
    (hs : s ∈ docs.deployment.services) (hsidecar : s.hasSidecar) :
    ∃ env client entry, docs.SignsIn f.settings s env client entry := by
  have hsound := StackFile.sound_of_resolve hwell h.deployment
  have hpolicy := Deployment.ofService_mem_policies hs hsidecar
  obtain ⟨context, hsecrets, hbuild⟩ := h.realm_build
  obtain ⟨secret, hlookup, hclient⟩ :=
    Realm.client?_of_build hbuild hsound.guardedIds_nodup hpolicy
  obtain ⟨port, cookieSecret, hport, henv⟩ := Sidecar.exists_sidecar h.sidecars hpolicy
  rw [hsecrets] at hlookup
  rw [hlookup, Option.getD_some] at henv
  have henvIds : (docs.sidecars.map (·.id)).Nodup := by
    rw [Sidecar.ids_of_buildAll h.sidecars]
    exact hsound.guardedIds_nodup
  have hurl : f.settings.urlOf (some s.host) = f.settings.url s.host :=
    Settings.urlOf_of_ne_empty _ (hsound.services s hs).host_ne_empty
  refine ⟨_, _, _, find?_eq_some_of_nodup henvIds henv, hclient,
    Descriptor.find?_entry hsound h.descriptor hs, ?_, ?_, ?_, ?_, hurl, ⟨port, hport, ?_⟩, ?_⟩
  · exact Sidecar.get?_environmentOf (by decide +kernel)
  · exact Sidecar.get?_environmentOf (by decide +kernel)
  · exact Sidecar.get?_environmentOf (by decide +kernel)
  · rfl
  · exact Sidecar.get?_environmentOf (by decide +kernel)
  · have hguarded : s.isGuarded = true := by
      rw [Service.isGuarded, bne_iff_ne, eq_of_beq hsidecar]
      decide
    have hroles : (Descriptor.entryOf f.settings s).roles = some s.roles := if_pos hguarded
    rw [hroles]
    exact Sidecar.get?_environmentOf (by decide +kernel)

theorem consistent_of_make (hwell : f.WellFormed) (h : docs.Make hashing f secrets a) :
    docs.Consistent f.settings := by
  have hsound := StackFile.sound_of_resolve hwell h.deployment
  obtain ⟨routes, hroutes, hrouting⟩ := bind_eq_ok.1 h.routing
  obtain ⟨hproblems, hdocument⟩ := Routing.generate_eq_ok_iff.1 hrouting
  have hhosts := (routeProblems_eq_nil_iff.1 hproblems).1
  have hsame := Routing.hosts_of_requests hroutes
  have hguarded := docs.deployment.guardedIds_perm
  obtain ⟨context, -, hbuild⟩ := h.realm_build
  refine ⟨hsound.protectedIds_nodup, hsame ▸ hhosts, ?_, ?_,
    Descriptor.workList_ids_perm h.descriptor, ?_, ?_, ?_, ?_, ?_, ?_⟩
  · rw [Sidecar.ids_of_buildAll h.sidecars]
    exact hguarded
  · exact (Realm.clientIds_perm hbuild).trans ((hguarded.map _).cons _)
  · rw [hdocument, ← hsame]
    exact Routing.routerNames_perm
  · intro s hs
    rw [hdocument]
    exact Routing.exists_router hroutes hhosts hs
  · intro s hs hid
    rw [hdocument]
    exact Routing.target?_of_hasSidecar hroutes hhosts hs (hsound.hasSidecar_of_mem hs hid)
  · intro s hs hid
    rw [hdocument]
    exact Routing.target?_of_not_hasSidecar hroutes hhosts hs fun hsidecar =>
      hid (Deployment.mem_protectedIds hs hsidecar)
  · intro r _ url hurl id hid port
    rw [hdocument] at hurl
    exact Routing.backend_ne_application hsound hroutes hurl hid port
  · intro s hs hid
    exact signsIn hwell h hs (hsound.hasSidecar_of_mem hs hid)

end Documents

/-- Whatever the stack file and the secrets, artifacts that result were written from consistent
documents. -/
theorem Artifacts.consistent_of_compile {σ : Type} {source : String} {data : Data} {f : StackFile}
    (hf : StackFile.ofData source data = .ok f) {hashing : Hashing} {secrets : Secrets}
    {t : Trail σ} {a : Artifacts}
    (h : ((Artifacts.compile hashing f secrets).exec t).1 = .ok a) :
    ∃ docs : Documents, docs.Make hashing f secrets a ∧ docs.Consistent f.settings := by
  obtain ⟨docs, hmake⟩ := exec_compile_eq_ok_iff.1 h
  exact ⟨docs, hmake, Documents.consistent_of_make (StackFile.wellFormed_of_ofData hf) hmake⟩

/-! ## A stack with a guarded service -/

namespace Artifacts

def guardedData : Data := .record [
  ("stack", .record [
    ("deploymentId", .str "demo"), ("environment", .str "local"), ("keycloakRealm", .str "main")]),
  ("services", .record [("demo", .record [("requiredRoles", .strs ["dev"])])])]

def guardedFile : StackFile where
  settings := { deploymentId := "demo", environment := "local", realm := "main" }
  declaration := { services := [("demo", { roles := some ["dev"] })] }

def guardedDeployment : Deployment where
  environment := "local"
  roles := ["dev"]
  services := [
    { id := "demo", displayName := "Demo", host := "demo", access := .proxy, roles := ["dev"] }]

def guardedSecrets : Secrets where
  portalClientSecret := "portal-secret"
  clientSecrets := [("demo", "client-secret")]
  cookieSecrets := [("demo", "0123456789abcdef")]

theorem resolve_guardedFile : guardedFile.resolve = .ok guardedDeployment :=
  StackFile.resolve_of_known (by decide +kernel) (by decide +kernel) (by decide +kernel)

def guardedHashing : Hashing where
  salts _ := []

theorem exec_compile_guardedFile : ∃ a, ((compile guardedHashing guardedFile guardedSecrets).exec
    (⟨(), []⟩ : Trail Unit)).1 = .ok a :=
  exists_compile resolve_guardedFile rfl (by decide +kernel) (by decide +kernel) (by decide +kernel)
    (by decide +kernel) _

/-- The artifacts of the stack are consistent. -/
theorem consistent_of_compile_guarded :
    StackFile.ofData "<memory>" guardedData = .ok guardedFile ∧
      ∃ a, ((compile guardedHashing guardedFile guardedSecrets).exec
          (⟨(), []⟩ : Trail Unit)).1 = .ok a ∧
        ∃ docs : Documents, docs.Make guardedHashing guardedFile guardedSecrets a ∧
          docs.Consistent guardedFile.settings := by
  have hf : StackFile.ofData "<memory>" guardedData = .ok guardedFile :=
    toOption_eq_some_iff.1 (by decide +kernel)
  obtain ⟨a, ha⟩ := exec_compile_guardedFile
  exact ⟨hf, a, ha, consistent_of_compile hf ha⟩

end Artifacts
end StackCompiler
