import Mathlib.Data.List.TakeWhile
import StackCompiler.Proofs.Data.Reading
import StackCompiler.Proofs.Text.Mark
import StackCompiler.Proofs.Text.Order
import StackCompiler.Routing.Document

/-!
# Where routers lead

A routing document is only built from requests with distinct hosts (`routeProblems_eq_nil_iff`), so
that no router and no backend of it hides another one: the router of a request is found under its
name (`lookup_router`), and its backend is the address of the request (`lookup_backend`).
-/

namespace StackCompiler

/-! ## The catalog -/

theorem Catalog.exists_port? {c : Catalog} {id : String} (h : id ∈ c.ids) :
    ∃ port, c.port? id = some port := by
  rw [ids, Text.mem_sortPlain] at h
  obtain ⟨e, he, rfl⟩ := List.mem_map.1 h
  exact Option.isSome_iff_exists.1 (List.lookup_isSome_iff.2 ⟨e, he, beq_self_eq_true _⟩)

/-! ## Problems of requests -/

theorem hostProblems_eq_nil_iff {seen : List String} {host : String} :
    hostProblems seen host = [] ↔ host ∉ seen ∧ Text.isSlug host ∧ host ∉ reservedHosts := by
  unfold hostProblems
  rw [List.append_eq_nil_iff, List.append_eq_nil_iff, and_assoc]
  refine and_congr ?_ (and_congr ?_ ?_)
  · by_cases h : host ∈ seen <;> simp [h]
  · by_cases h : Text.isSlug host <;> simp [h]
  · by_cases h : host ∈ reservedHosts <;> simp [h]

theorem hostListProblems_eq_nil_iff : ∀ {hosts seen : List String},
    hostListProblems seen hosts = [] ↔
      hosts.Nodup ∧ ∀ h ∈ hosts, h ∉ seen ∧ Text.isSlug h ∧ h ∉ reservedHosts
  | [], _ => by simp [hostListProblems]
  | host :: hosts, seen => by
    rw [hostListProblems, List.append_eq_nil_iff, hostProblems_eq_nil_iff,
      hostListProblems_eq_nil_iff, List.nodup_cons, List.forall_mem_cons]
    constructor
    · rintro ⟨hhost, hnodup, hhosts⟩
      refine ⟨⟨fun hmem => (hhosts host hmem).1 (List.mem_cons_self ..), hnodup⟩, hhost, ?_⟩
      intro h hh
      obtain ⟨hseen, hrest⟩ := hhosts h hh
      exact ⟨fun hmem => hseen (List.mem_cons_of_mem _ hmem), hrest⟩
    · rintro ⟨⟨hnew, hnodup⟩, hhost, hhosts⟩
      refine ⟨hhost, hnodup, fun h hh => ⟨?_, (hhosts h hh).2⟩⟩
      intro hseen
      rcases List.mem_cons.1 hseen with rfl | hseen
      · exact hnew hh
      · exact (hhosts h hh).1 hseen

theorem routeProblems_eq_nil_iff {routes : List RouteRequest} :
    routeProblems routes = [] ↔ (routes.map (·.host)).Nodup ∧
      ∀ r ∈ routes, Text.isSlug r.host ∧ r.host ∉ reservedHosts := by
  simp [routeProblems, hostListProblems_eq_nil_iff]

namespace Routing

variable {s : Settings} {catalog : Catalog} {d : Deployment} {routes : List RouteRequest}
  {r : RouteRequest}

theorem generate_eq_ok_iff {doc : Document} :
    generate s routes = .ok doc ↔ routeProblems routes = [] ∧ doc = document s routes := by
  unfold generate
  cases routeProblems routes with
  | nil => simp [eq_comm]
  | cons p ps => simp

/-! ## Requests of services -/

section Endpoints

variable {service : Service}

theorem endpoint?_of_hasSidecar (h : service.hasSidecar) :
    service.endpoint? s catalog = some ⟨s.container s!"{service.id}-oauth2-proxy", 4180⟩ := by
  rw [Service.endpoint?, if_pos h]
  rfl

theorem endpoint?_of_not_hasSidecar {endpoint : Endpoint} (h : ¬service.hasSidecar)
    (hendpoint : service.endpoint? s catalog = some endpoint) :
    ∃ port, catalog.port? service.id = some port ∧ endpoint = ⟨s.container service.id, port⟩ := by
  rw [Service.endpoint?, if_neg h, Option.map_eq_some_iff] at hendpoint
  obtain ⟨port, hport, rfl⟩ := hendpoint
  exact ⟨port, hport, rfl⟩

end Endpoints

theorem request_eq_ok_iff {service : Service} :
    (match service.endpoint? s catalog with
      | some endpoint => .ok ⟨service.host, endpoint⟩
      | none => .error (.notInCatalog service.id) : Except Failure RouteRequest) = .ok r ↔
      r.host = service.host ∧ service.endpoint? s catalog = some r.endpoint := by
  rcases r with ⟨host, endpoint⟩
  cases service.endpoint? s catalog with
  | none => simp
  | some e => simp [eq_comm]

theorem hosts_of_requests (h : requests s catalog d = .ok routes) :
    routes.map (·.host) = d.services.map (·.host) :=
  map_eq_map_of_mapM (fun _ _ hr => (request_eq_ok_iff.1 hr).1) h

theorem exists_request (h : requests s catalog d = .ok routes) {service : Service}
    (hs : service ∈ d.services) :
    ∃ r ∈ routes, r.host = service.host ∧ service.endpoint? s catalog = some r.endpoint := by
  obtain ⟨r, hr, heq⟩ := exists_mem_of_mapM_eq_ok h service hs
  exact ⟨r, hr, request_eq_ok_iff.1 heq⟩

theorem exists_requests (h : ∀ service ∈ d.services,
    ¬service.hasSidecar → (catalog.port? service.id).isSome) :
    ∃ routes, requests s catalog d = .ok routes := by
  refine exists_mapM_eq_ok fun service hservice => ?_
  obtain ⟨endpoint, hendpoint⟩ : ∃ endpoint, service.endpoint? s catalog = some endpoint := by
    unfold Service.endpoint?
    split
    · exact ⟨_, rfl⟩
    · rename_i hdirect
      obtain ⟨port, hport⟩ := Option.isSome_iff_exists.1 (h service hservice hdirect)
      exact ⟨_, by rw [hport, Option.map_some]⟩
  exact ⟨⟨service.host, endpoint⟩, by rw [hendpoint]⟩

theorem exists_service (h : requests s catalog d = .ok routes) (hr : r ∈ routes) :
    ∃ service ∈ d.services, service.endpoint? s catalog = some r.endpoint := by
  obtain ⟨service, hs, heq⟩ := exists_mem_of_mem_mapM h r hr
  exact ⟨service, hs, (request_eq_ok_iff.1 heq).2⟩

/-! ## Names in the document -/

/-- The names of the core routers. -/
def coreRouterNames : List String := ["redirect-base", "core-portal", "core-keycloak"]

theorem routerNames_eq : (document s routes).routers.map (·.1) =
    coreRouterNames ++ ((Text.sortById (·.host) routes).map (·.host)).map routerName := by
  simp [document, coreRouters, coreRouterNames]

theorem routerNames_perm : ((document s routes).routers.map (·.1)).Perm
    (coreRouterNames ++ (routes.map (·.host)).map routerName) := by
  rw [routerNames_eq]
  exact ((Text.map_sortById_perm _ _ routes).map routerName).append_left _

theorem routerNames_nodup (hhosts : (routes.map (·.host)).Nodup) :
    ((document s routes).routers.map (·.1)).Nodup :=
  routerNames_perm.nodup_iff.2 (nodup_append_map_start (by decide) (by decide) hhosts)

theorem backendNames_nodup (hhosts : (routes.map (·.host)).Nodup) :
    ((document s routes).backends.map (·.1)).Nodup := by
  have heq : (document s routes).backends.map (·.1) = ["core-portal", "core-keycloak"] ++
      ((Text.sortById (·.host) routes).map (·.host)).map ("svc-" ++ ·) := by
    simp [document, coreBackends, backendName]
    exact fun _ _ => rfl
  rw [heq]
  exact nodup_append_map_start (by decide) (by decide)
    ((Text.map_sortById_perm _ _ routes).nodup_iff.2 hhosts)

/-! ## Lookups -/

/-- The router of a request is found under its name. -/
theorem lookup_router (hhosts : (routes.map (·.host)).Nodup) (hr : r ∈ routes) :
    (document s routes).routers.lookup (routerName r.host) =
      some (hardenedRouter s r.host (backendName r.host) securityHeaders) := by
  refine lookup_eq_some_of_nodup (routerNames_nodup hhosts) (List.mem_append_right _ ?_)
  exact List.mem_map.2 ⟨r, Text.mem_sortById.2 hr, rfl⟩

/-- The backend of a request is its address. -/
theorem lookup_backend (hhosts : (routes.map (·.host)).Nodup) (hr : r ∈ routes) :
    (document s routes).backends.lookup (backendName r.host) = some (serverUrl r.endpoint) := by
  refine lookup_eq_some_of_nodup (backendNames_nodup hhosts) (List.mem_append_right _ ?_)
  exact List.mem_map.2 ⟨r, Text.mem_sortById.2 hr, rfl⟩

/-- Every backend is that of the portal, of the identity provider or of a request. -/
theorem backend_cases {name url : String}
    (h : (document s routes).backends.lookup name = some url) :
    url = serverUrl ⟨s.container portalHost, portalPort⟩ ∨
      url = serverUrl ⟨s.container keycloakHost, keycloakPort⟩ ∨
      ∃ r ∈ routes, url = serverUrl r.endpoint := by
  have hmem := mem_of_lookup_eq_some h
  simp only [document, coreBackends, List.mem_append, List.mem_cons, Prod.mk.injEq,
    List.not_mem_nil, or_false, List.mem_map, Text.mem_sortById] at hmem
  rcases hmem with (⟨-, rfl⟩ | ⟨-, rfl⟩) | ⟨r, hr, -, rfl⟩
  · exact .inl rfl
  · exact .inr (.inl rfl)
  · exact .inr (.inr ⟨r, hr, rfl⟩)

/-! ## Addresses of containers -/

theorem not_mem_toString {c : Char} (hdigit : c.isDigit = false) (hminus : c ≠ '-') (n : Int) :
    c ∉ (toString n).toList := by
  have hnat : ∀ n : Nat, c ∉ (toString n).toList := fun n hmem => by
    rw [Nat.toString_eq_repr, Nat.toList_repr] at hmem
    rw [Nat.isDigit_of_mem_toDigits (by decide) (by decide) hmem] at hdigit
    cases hdigit
  cases n with
  | ofNat n => exact hnat n
  | negSucc n =>
    change c ∉ ("-" ++ toString (n + 1)).toList
    rw [String.toList_append, List.mem_append, not_or]
    exact ⟨fun h => hminus (List.mem_singleton.1 h), hnat (n + 1)⟩

/-- A url has one address, which ends at its last colon. -/
theorem address_eq_of_serverUrl_eq {e e' : Endpoint} (h : serverUrl e = serverUrl e') :
    e.address = e'.address := by
  have hbefore : ∀ e : Endpoint, Text.beforeLast? [':'] (serverUrl e).toList =
      some ("http://" ++ e.address).toList := fun e => by
    have hlist : (serverUrl e).toList =
        ("http://" ++ e.address).toList ++ [':'] ++ (toString e.port).toList := by
      change ("http://" ++ e.address ++ ":" ++ toString e.port).toList = _
      rw [String.toList_append, String.toList_append]
      rfl
    have hport : ¬[':'] <:+: [] ++ (toString e.port).toList :=
      Text.not_infix_of_not_mem (List.mem_singleton_self ':')
        (not_mem_toString (by decide) (by decide) e.port)
    rw [hlist]
    exact Text.beforeLast?_append_of_not_infix hport _
  have hsame := hbefore e
  rw [h, hbefore e', Option.some.injEq, String.toList_append, String.toList_append] at hsame
  exact String.toList_inj.1 (List.append_cancel_left hsame).symm

theorem toList_container (s : Settings) (x : String) : (s.container x).toList =
    (s.deploymentId ++ "-" ++ s.projectName ++ "-").toList ++ x.toList := by
  change (s.deploymentId ++ "-" ++ s.projectName ++ "-" ++ x).toList = _
  rw [String.toList_append]

theorem container_injective (s : Settings) : Function.Injective s.container := fun x y h => by
  have hlists := congrArg String.toList h
  rw [toList_container, toList_container] at hlists
  exact String.toList_inj.1 (List.append_cancel_left hlists)

/-- Containers of different names have different addresses, whatever the ports. -/
theorem eq_of_serverUrl_container {x y : String} {n m : Int}
    (h : serverUrl ⟨s.container x, n⟩ = serverUrl ⟨s.container y, m⟩) : x = y :=
  container_injective s (address_eq_of_serverUrl_eq h)

end Routing
end StackCompiler
