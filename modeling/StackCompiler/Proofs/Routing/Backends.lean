import StackCompiler.Proofs.Deployment.Rules
import StackCompiler.Proofs.Routing

/-!
# Backends of their own

The containers of services, of their sidecars and of the core services are named in one way, so that
a name may be taken twice. `Deployment.HasOwnNames` says which ids of services must not be declared
together; for valid declarations it is just what keeps all backends of the routing document at
addresses of their own and all requests away from the applications behind a sidecar
(`Routing.separate_iff_hasOwnNames`).
-/

namespace StackCompiler

/-! ## Names of backends -/

/-- What the container that is addressed for a service is named after. -/
def Service.backendId (s : Service) : String :=
  if s.hasSidecar then s!"{s.id}-oauth2-proxy" else s.id

/-- No service of the catalog is named like a core service or like the sidecar of a service. -/
def Catalog.HasOwnNames (c : Catalog) : Prop :=
  ∀ id ∈ c.map (·.1), id ∉ reservedHosts ∧ ∀ other ∈ c.map (·.1), id ≠ s!"{other}-oauth2-proxy"

theorem Catalog.hasOwnNames_builtIn : builtIn.HasOwnNames := by
  unfold HasOwnNames
  decide

namespace Deployment

variable {d : Deployment}

/-- What the containers of all backends are named after, those of the core services first. -/
def backendIds (d : Deployment) : List String :=
  reservedHosts ++ d.services.map (·.backendId)

/-- No service is named like a core service or like the sidecar of a service. -/
def HasOwnNames (d : Deployment) : Prop :=
  ∀ s ∈ d.services, s.id ∉ reservedHosts ∧
    ∀ guarded ∈ d.services, guarded.hasSidecar → s.id ≠ s!"{guarded.id}-oauth2-proxy"

/-- Where no names of the catalog clash, none of the services do. -/
theorem hasOwnNames_of_catalog {c : Catalog} (hc : c.HasOwnNames)
    (h : ∀ s ∈ d.services, s.id ∈ c.map (·.1)) : d.HasOwnNames := fun s hs =>
  ⟨(hc s.id (h s hs)).1, fun guarded hguarded _ => (hc s.id (h s hs)).2 _ (h guarded hguarded)⟩

theorem toList_sidecarName (id : String) :
    (s!"{id}-oauth2-proxy").toList = id.toList ++ "-oauth2-proxy".toList := by
  change (id ++ "-oauth2-proxy").toList = _
  rw [String.toList_append]

theorem sidecarName_injective {a b : String} (h : s!"{a}-oauth2-proxy" = s!"{b}-oauth2-proxy") :
    a = b := by
  have hlists := congrArg String.toList h
  rw [toList_sidecarName, toList_sidecarName] at hlists
  exact String.toList_inj.1 (List.append_cancel_right hlists)

/-- The name of a sidecar is longer than that of a core service. -/
theorem sidecarName_not_mem_reservedHosts (id : String) :
    s!"{id}-oauth2-proxy" ∉ reservedHosts := by
  intro hmem
  have hshort : ∀ host ∈ reservedHosts, host.toList.length < "-oauth2-proxy".toList.length := by
    decide
  have hlong := hshort _ hmem
  rw [toList_sidecarName, List.length_append] at hlong
  exact absurd hlong (Nat.not_lt.2 (Nat.le_add_left ..))

section

variable {s : Service}

theorem backendId_of_hasSidecar (h : s.hasSidecar) : s.backendId = s!"{s.id}-oauth2-proxy" :=
  if_pos h

theorem backendId_of_not_hasSidecar (h : ¬s.hasSidecar) : s.backendId = s.id := if_neg h

theorem HasOwnNames.backendId_not_reserved (h : d.HasOwnNames) (hs : s ∈ d.services) :
    s.backendId ∉ reservedHosts := by
  by_cases hsidecar : s.hasSidecar
  · rw [backendId_of_hasSidecar hsidecar]
    exact sidecarName_not_mem_reservedHosts s.id
  · rw [backendId_of_not_hasSidecar hsidecar]
    exact (h s hs).1

theorem HasOwnNames.id_of_backendId_eq {s' : Service} (h : d.HasOwnNames) (hs : s ∈ d.services)
    (hs' : s' ∈ d.services) (heq : s.backendId = s'.backendId) : s.id = s'.id := by
  by_cases hsidecar : s.hasSidecar <;> by_cases hsidecar' : s'.hasSidecar
  · rw [backendId_of_hasSidecar hsidecar, backendId_of_hasSidecar hsidecar'] at heq
    exact sidecarName_injective heq
  · rw [backendId_of_hasSidecar hsidecar, backendId_of_not_hasSidecar hsidecar'] at heq
    exact absurd heq.symm ((h s' hs').2 s hs hsidecar)
  · rw [backendId_of_not_hasSidecar hsidecar, backendId_of_hasSidecar hsidecar'] at heq
    exact absurd heq ((h s hs).2 s' hs' hsidecar')
  · rwa [backendId_of_not_hasSidecar hsidecar, backendId_of_not_hasSidecar hsidecar'] at heq

end

/-- The names are kept apart just where no two backends share a name, and no backend has the name of
an application behind a sidecar. -/
theorem hasOwnNames_iff (hids : (d.services.map (·.id)).Nodup) :
    d.HasOwnNames ↔ d.backendIds.Nodup ∧
      ∀ guarded ∈ d.services, guarded.hasSidecar → guarded.id ∉ d.backendIds := by
  rw [backendIds, List.nodup_append]
  constructor
  · intro h
    refine ⟨⟨by decide, ?_, ?_⟩, fun guarded hguarded hsidecar hmem => ?_⟩
    · refine List.Nodup.map_on (fun s hs s' hs' heq => ?_) hids.of_map
      exact List.inj_on_of_nodup_map hids hs hs' (h.id_of_backendId_eq hs hs' heq)
    · rintro host hreserved _ hmem rfl
      obtain ⟨s, hs, rfl⟩ := List.mem_map.1 hmem
      exact h.backendId_not_reserved hs hreserved
    · rcases List.mem_append.1 hmem with hreserved | hmem
      · exact (h guarded hguarded).1 hreserved
      · obtain ⟨s, hs, heq⟩ := List.mem_map.1 hmem
        by_cases hs' : s.hasSidecar
        · rw [backendId_of_hasSidecar hs'] at heq
          exact (h guarded hguarded).2 s hs hs' heq.symm
        · rw [backendId_of_not_hasSidecar hs'] at heq
          exact hs' (List.inj_on_of_nodup_map hids hs hguarded heq ▸ hsidecar)
  · rintro ⟨⟨-, hnames, happart⟩, hguarded⟩ s hs
    have hmem : ∀ g ∈ d.services, g.backendId ∈ d.services.map (·.backendId) := fun g hg =>
      List.mem_map_of_mem hg
    by_cases hsidecar : s.hasSidecar
    · refine ⟨fun hreserved => ?_, fun g hg hg' heq => ?_⟩
      · exact hguarded s hs hsidecar (List.mem_append_left _ hreserved)
      · refine hguarded s hs hsidecar (List.mem_append_right _ ?_)
        rw [heq, ← backendId_of_hasSidecar hg']
        exact hmem g hg
    · have hid := backendId_of_not_hasSidecar hsidecar
      refine ⟨fun hreserved => happart _ hreserved _ (hmem s hs) hid.symm, fun g hg hg' heq => ?_⟩
      have hsame : s.backendId = g.backendId := by rw [hid, backendId_of_hasSidecar hg', heq]
      exact hsidecar (List.inj_on_of_nodup_map hnames hs hg hsame ▸ hg')

end Deployment

namespace Routing

variable {s : Settings} {catalog : Catalog} {d : Deployment} {routes : List RouteRequest}

/-! ## Requests of valid declarations -/

/-- For the services of a valid declaration routes can be requested, and there is no problem with
them. -/
theorem exists_requests_of_valid {declaration : Declaration} {environment : String} (s : Settings)
    (h : declaration.Valid catalog.ids environment) :
    ∃ routes, requests s catalog (declaration.resolve environment) = .ok routes ∧
      routeProblems routes = [] := by
  obtain ⟨routes, hroutes⟩ : ∃ routes,
      requests s catalog (declaration.resolve environment) = .ok routes :=
    exists_requests fun service hservice _ =>
      Option.isSome_iff_exists.2 (Catalog.exists_port? (h.ids service hservice).1)
  have hhosts := hosts_of_requests hroutes
  refine ⟨routes, hroutes, routeProblems_eq_nil_iff.2 ⟨hhosts ▸ h.hosts_nodup, fun r hr => ?_⟩⟩
  obtain ⟨service, hservice, heq⟩ := List.mem_map.1 (hhosts ▸ List.mem_map_of_mem hr)
  exact heq ▸ h.hosts service hservice

/-! ## Addresses -/

/-- The servers of two urls have the same address, whatever the ports. -/
def SameAddress (u v : String) : Prop :=
  ∃ (address : String) (p q : Int), u = serverUrl ⟨address, p⟩ ∧ v = serverUrl ⟨address, q⟩

theorem sameAddress_iff {e e' : Endpoint} :
    SameAddress (serverUrl e) (serverUrl e') ↔ e.address = e'.address := by
  constructor
  · rintro ⟨address, p, q, he, he'⟩
    exact (address_eq_of_serverUrl_eq he).trans (address_eq_of_serverUrl_eq he').symm
  · intro h
    exact ⟨e.address, e.port, e'.port, rfl, by rw [h]⟩

/-- The backends of a document are at addresses of their own, and no router leads to the application
behind a sidecar. -/
structure Document.Separate (s : Settings) (d : Deployment) (doc : Document) : Prop where
  apart : doc.backends.Pairwise fun a b => ¬SameAddress a.2 b.2
  guarded : ∀ r ∈ doc.routers, ∀ url, doc.backends.lookup r.2.backend = some url →
    ∀ service ∈ d.services, service.hasSidecar →
      ∀ port : Int, url ≠ serverUrl ⟨s.container service.id, port⟩

/-- The addresses of all backends, in the order of the document. -/
def endpoints (s : Settings) (routes : List RouteRequest) : List Endpoint :=
  ⟨s.container portalHost, portalPort⟩ :: ⟨s.container keycloakHost, keycloakPort⟩ ::
    (Text.sortById (·.host) routes).map (·.endpoint)

theorem urls_eq (s : Settings) (routes : List RouteRequest) :
    (document s routes).backends.map (·.2) = (endpoints s routes).map serverUrl := by
  simp [document, coreBackends, endpoints]

theorem address_of_endpoint? {service : Service} {endpoint : Endpoint}
    (h : service.endpoint? s catalog = some endpoint) :
    endpoint.address = s.container service.backendId := by
  by_cases hsidecar : service.hasSidecar
  · rw [endpoint?_of_hasSidecar hsidecar, Option.some.injEq] at h
    rw [← h, Deployment.backendId_of_hasSidecar hsidecar]
  · obtain ⟨port, -, rfl⟩ := endpoint?_of_not_hasSidecar hsidecar h
    rw [Deployment.backendId_of_not_hasSidecar hsidecar]

theorem addresses_of_requests (h : requests s catalog d = .ok routes) :
    routes.map (·.endpoint.address) = d.services.map fun service => s.container service.backendId :=
  map_eq_map_of_mapM (fun _ _ hr => address_of_endpoint? (request_eq_ok_iff.1 hr).2) h

theorem addresses_perm (h : requests s catalog d = .ok routes) :
    ((endpoints s routes).map (·.address)).Perm (d.backendIds.map s.container) := by
  have hservices : ((Text.sortById (·.host) routes).map (·.endpoint.address)).Perm
      (d.services.map fun service => s.container service.backendId) :=
    addresses_of_requests h ▸ Text.map_sortById_perm _ _ routes
  rw [endpoints, Deployment.backendIds, reservedHosts, List.map_cons, List.map_cons, List.map_map,
    List.map_append, List.map_map]
  exact (hservices.cons _).cons _

/-- All backends are at addresses of their own just where no two are named after one id. -/
theorem pairwise_apart_iff (h : requests s catalog d = .ok routes) :
    ((document s routes).backends.Pairwise fun a b => ¬SameAddress a.2 b.2) ↔
      d.backendIds.Nodup := by
  have hurls : ((document s routes).backends.Pairwise fun a b => ¬SameAddress a.2 b.2) ↔
      ((document s routes).backends.map (·.2)).Pairwise fun u v => ¬SameAddress u v := by
    rw [List.pairwise_map]
  have haddresses : ((endpoints s routes).map serverUrl).Pairwise (fun u v => ¬SameAddress u v) ↔
      ((endpoints s routes).map (·.address)).Nodup := by
    rw [List.pairwise_map, List.Nodup, List.pairwise_map]
    simp only [sameAddress_iff]
  rw [hurls, urls_eq, haddresses, (addresses_perm h).nodup_iff,
    List.nodup_map_iff (container_injective s)]

/-! ## Where routers lead -/

/-- Every backend is at the address of a container that is named after one of the ids. -/
theorem exists_backendId (h : requests s catalog d = .ok routes) {name url : String}
    (hurl : (document s routes).backends.lookup name = some url) :
    ∃ id ∈ d.backendIds, ∃ port : Int, url = serverUrl ⟨s.container id, port⟩ := by
  rcases backend_cases hurl with rfl | rfl | ⟨r, hr, rfl⟩
  · exact ⟨portalHost, List.mem_append_left _ (by decide), _, rfl⟩
  · exact ⟨keycloakHost, List.mem_append_left _ (by decide), _, rfl⟩
  · obtain ⟨service, hservice, hendpoint⟩ := exists_service h hr
    refine ⟨service.backendId, List.mem_append_right _ (List.mem_map_of_mem hservice),
      r.endpoint.port, ?_⟩
    rw [← address_of_endpoint? hendpoint]

/-- Some router leads to the container that is named after an id of a backend. -/
theorem exists_router_to (h : requests s catalog d = .ok routes)
    (hhosts : (routes.map (·.host)).Nodup) {id : String} (hid : id ∈ d.backendIds) :
    ∃ r ∈ (document s routes).routers, ∃ port : Int,
      (document s routes).backends.lookup r.2.backend =
        some (serverUrl ⟨s.container id, port⟩) := by
  rcases List.mem_append.1 hid with hcore | hid
  · simp only [reservedHosts, List.mem_cons, List.not_mem_nil, or_false] at hcore
    rcases hcore with rfl | rfl
    · exact ⟨("core-portal", hardenedRouter s portalHost "core-portal" securityHeaders),
        List.mem_append_left _ (by simp [coreRouters]), portalPort, rfl⟩
    · exact ⟨("core-keycloak", hardenedRouter s keycloakHost "core-keycloak" loginSecurityHeaders),
        List.mem_append_left _ (by simp [coreRouters]), keycloakPort, rfl⟩
  · obtain ⟨service, hservice, rfl⟩ := List.mem_map.1 hid
    obtain ⟨r, hr, -, hendpoint⟩ := exists_request h hservice
    refine ⟨_, mem_of_lookup_eq_some (lookup_router hhosts hr), r.endpoint.port, ?_⟩
    rw [← address_of_endpoint? hendpoint]
    exact lookup_backend hhosts hr

/-- The backends are separate just where the services have names of their own. -/
theorem separate_document_iff (h : requests s catalog d = .ok routes)
    (hhosts : (routes.map (·.host)).Nodup) (hids : (d.services.map (·.id)).Nodup) :
    (document s routes).Separate s d ↔ d.HasOwnNames := by
  rw [Deployment.hasOwnNames_iff hids, ← pairwise_apart_iff h]
  constructor
  · intro hseparate
    refine ⟨hseparate.apart, fun service hservice hsidecar hmem => ?_⟩
    obtain ⟨r, hr, port, hurl⟩ := exists_router_to h hhosts hmem
    exact hseparate.guarded r hr _ hurl service hservice hsidecar port rfl
  · rintro ⟨happart, hguarded⟩
    refine ⟨happart, fun r _ url hurl service hservice hsidecar port heq => ?_⟩
    obtain ⟨id, hid, port', hid'⟩ := exists_backendId h hurl
    exact hguarded service hservice hsidecar (eq_of_serverUrl_container (heq.symm.trans hid') ▸ hid)

/-- From a valid declaration a document is generated. Its backends are separate just where the
services have names of their own, and so they always are with a catalog whose names do not clash. -/
theorem separate_iff_hasOwnNames {declaration : Declaration} {environment : String}
    (hd : declaration.WellFormed)
    (hvalid : declaration.validate catalog.ids environment = .ok d) :
    ∃ routes doc, requests s catalog d = .ok routes ∧ generate s routes = .ok doc ∧
      (doc.Separate s d ↔ d.HasOwnNames) ∧ (catalog.HasOwnNames → doc.Separate s d) := by
  obtain ⟨hrules, rfl⟩ := Declaration.validate_eq_ok_iff.1 hvalid
  obtain ⟨routes, hroutes, hproblems⟩ := exists_requests_of_valid s hrules
  have hhosts := (routeProblems_eq_nil_iff.1 hproblems).1
  have hids := (declaration.ids_resolve_perm environment).nodup_iff.2 hd.services_nodup
  have hseparate := separate_document_iff hroutes hhosts hids
  refine ⟨routes, document s routes, hroutes, generate_eq_ok_iff.2 ⟨hproblems, rfl⟩, hseparate,
    fun hcatalog => hseparate.2 (Deployment.hasOwnNames_of_catalog hcatalog fun service hs => ?_)⟩
  have hknown := (hrules.ids service hs).1
  rwa [Catalog.ids, Text.mem_sortPlain] at hknown

/-! ## A service that is named like the portal -/

def notesSettings : Settings where
  deploymentId := "demo"
  environment := "local"
  realm := "main"

def notesCatalog (id : String) : Catalog := [(id, 3000)]

def notesDeclaration (id : String) : Declaration where
  services := [(id, { host := some "notes" })]

def notesDeployment (id : String) (displayName : String) : Deployment where
  environment := "local"
  roles := []
  services := [{ id, displayName, host := "notes", access := .free }]

/-- Under an id of its own the service has a backend of its own. -/
theorem separate_notes : ∃ routes doc,
    requests notesSettings (notesCatalog "notes") (notesDeployment "notes" "Notes") = .ok routes ∧
      generate notesSettings routes = .ok doc ∧
      doc.Separate notesSettings (notesDeployment "notes" "Notes") := by
  have hd : (notesDeclaration "notes").WellFormed := by
    refine ⟨?_, ?_⟩ <;> decide
  have hvalid : (notesDeclaration "notes").validate (notesCatalog "notes").ids "local" =
      .ok (notesDeployment "notes" "Notes") := toOption_eq_some_iff.1 (by decide +kernel)
  have hnames : (notesDeployment "notes" "Notes").HasOwnNames := by
    unfold Deployment.HasOwnNames
    decide
  obtain ⟨routes, doc, hroutes, hdoc, hiff, -⟩ := separate_iff_hasOwnNames hd hvalid
  exact ⟨routes, doc, hroutes, hdoc, hiff.2 hnames⟩

/-- Only hosts are reserved. A service with the id of the portal is valid where the catalog has it,
and its backend is at the address of the portal. -/
theorem portal_backend_shared :
    (notesDeclaration "portal").validate (notesCatalog "portal").ids "local" =
        .ok (notesDeployment "portal" "Portal") ∧
      ∃ routes doc,
        requests notesSettings (notesCatalog "portal") (notesDeployment "portal" "Portal") =
          .ok routes ∧
        generate notesSettings routes = .ok doc ∧
        doc.backends.lookup "core-portal" = some "http://demo-stackgen-portal:3000" ∧
        doc.backends.lookup "svc-notes" = some "http://demo-stackgen-portal:3000" ∧
        ¬(doc.backends.map (·.2)).Nodup := by
  have hvalid : (notesDeclaration "portal").validate (notesCatalog "portal").ids "local" =
      .ok (notesDeployment "portal" "Portal") := toOption_eq_some_iff.1 (by decide +kernel)
  have hroutes :
      requests notesSettings (notesCatalog "portal") (notesDeployment "portal" "Portal") =
        .ok [⟨"notes", "demo-stackgen-portal", 3000⟩] := toOption_eq_some_iff.1 (by decide +kernel)
  refine ⟨hvalid, _, document notesSettings [⟨"notes", "demo-stackgen-portal", 3000⟩], hroutes,
    toOption_eq_some_iff.1 (by decide +kernel), ?_, ?_, ?_⟩
  · decide +kernel
  · decide +kernel
  · decide +kernel

end Routing
end StackCompiler
