import StackCompiler.Proofs.Routing

/-!
# No loose ends in a routing document

The parts of a routing document refer to each other by names that are made from hosts. In a document
of accepted requests every name that a router uses is defined, every definition is used, and no
entry takes the place of another one (`Routing.generate_integral`).
-/

namespace StackCompiler

/-! ## Records within records -/

namespace Data

/-- What stands under a path of keys. -/
def at? : List String → Data → Option Data
  | [], d => some d
  | key :: path, d => (d.get? key).bind (at? path)

theorem get?_record {key : String} : ∀ {entries : List (String × Data)},
    (record entries).get? key = entries.lookup key
  | [] => rfl
  | (key', d) :: entries => by
    have ih : (record entries).get? key = entries.lookup key := get?_record
    have hcons : (record ((key', d) :: entries)).get? key =
        if key == key' then some d else (record entries).get? key := by
      change List.lookup (Scalar.str key) ((Scalar.str key', d) :: _) = _
      rw [List.lookup_cons]
      change (match key == key' with | true => some d | false => _) = _
      cases key == key' <;> rfl
    rw [hcons, ih, List.lookup_cons]
    cases key == key' <;> rfl

end Data

namespace Routing

variable {s : Settings} {routes : List RouteRequest} {host : String}

/-! ## References -/

namespace Document

/-- The backends that routers refer to. -/
def namedBackends (doc : Document) : List String := doc.routers.map (·.2.backend)

/-- The middlewares that routers refer to. -/
def namedMiddlewares (doc : Document) : List String := doc.routers.flatMap (·.2.middlewares)

end Document

/-- The middleware that attaches headers to the answers of a router. -/
def headersOf (name : String) : String :=
  if name = "core-keycloak" then loginSecurityHeaders else securityHeaders

/-- In a document for requests all references are kept, each host has a router of its own, and that
of a request leads to the only server of a backend, which is the address of the request. -/
structure Document.Integral (s : Settings) (routes : List RouteRequest) (doc : Document) :
    Prop where
  routers_named : (doc.routers.map (·.1)).Perm
    (["redirect-base", "core-portal", "core-keycloak"] ++ (routes.map (·.host)).map routerName)
  routers_nodup : (doc.routers.map (·.1)).Nodup
  backends_nodup : (doc.backends.map (·.1)).Nodup
  middlewares_nodup : (doc.middlewares.map (·.1)).Nodup
  rules_nodup : (doc.routers.map (·.2.rule)).Nodup
  routers_written : ∀ e ∈ doc.routers,
    doc.toData.at? ["http", "routers", e.1] = some e.2.toData
  middlewares_written : ∀ e ∈ doc.middlewares,
    doc.toData.at? ["http", "middlewares", e.1] = some e.2.toData
  leads : ∀ r ∈ routes, ∃ router, doc.routers.lookup (routerName r.host) = some router ∧
    router.rule = hostRule s r.host ∧
    doc.toData.at? ["http", "services", router.backend, "loadBalancer", "servers"] =
      some (.list [.record [("url", .str (serverUrl r.endpoint))]])
  backends_used : ∀ name,
    name ∈ doc.backends.map (·.1) ↔ name ∈ doc.namedBackends ∧ name ≠ "noop@internal"
  middlewares_used : ∀ name, name ∈ doc.middlewares.map (·.1) ↔ name ∈ doc.namedMiddlewares
  encrypted : s.useHttps → ∀ e ∈ doc.routers,
    e.2.entryPoints = ["websecure"] ∧
      e.2.toData.get? "tls" = some (.record [("certResolver", .str "letsencrypt")])
  plain : ¬s.useHttps → ∀ e ∈ doc.routers,
    e.2.entryPoints = ["web"] ∧ e.2.toData.get? "tls" = none
  production : s.isProduction → ∀ e ∈ doc.routers, e.1 ≠ "redirect-base" →
    e.2.middlewares = ["rate-limit", "in-flight-req", headersOf e.1]
  encrypted_elsewhere : s.useHttps → ¬s.isProduction → ∀ e ∈ doc.routers,
    e.1 ≠ "redirect-base" → e.2.middlewares = [headersOf e.1]

/-! ## Rules -/

theorem toList_hostRule (s : Settings) (host : String) : (hostRule s host).toList =
    "Host(`".toList ++ (host.toList ++ '.' :: (s.baseDomain.toList ++ "`)".toList)) := by
  change ("Host(`" ++ host ++ "." ++ s.baseDomain ++ "`)").toList = _
  simp only [String.toList_append, List.append_assoc]
  rfl

theorem hostRule_injective (s : Settings) : Function.Injective (hostRule s) := fun host host' h => by
  have hlists := congrArg String.toList h
  rw [toList_hostRule, toList_hostRule] at hlists
  exact String.toList_inj.1 (List.append_cancel_right (List.append_cancel_left hlists))

/-- The rule for the domain itself is shorter than any rule for a host. -/
theorem hostRule_ne_base (s : Settings) (host : String) : hostRule s host ≠ (baseRouter s).rule := by
  intro h
  have hlists : (hostRule s host).toList = ("Host(`" ++ s.baseDomain ++ "`)").toList :=
    congrArg String.toList h
  have hlengths := congrArg List.length hlists
  rw [toList_hostRule, String.toList_append, String.toList_append] at hlengths
  simp only [List.length_append, List.length_cons] at hlengths
  omega

theorem rules_eq (s : Settings) (routes : List RouteRequest) :
    (document s routes).routers.map (·.2.rule) = (baseRouter s).rule ::
      (portalHost :: keycloakHost :: (Text.sortById (·.host) routes).map (·.host)).map
        (hostRule s) := by
  simp [document, coreRouters, hardenedRouter, router]

theorem rules_nodup (hproblems : routeProblems routes = []) :
    ((document s routes).routers.map (·.2.rule)).Nodup := by
  obtain ⟨hhosts, hsound⟩ := routeProblems_eq_nil_iff.1 hproblems
  have hfree : ∀ host ∈ reservedHosts, host ∉ (Text.sortById (·.host) routes).map (·.host) := by
    intro host hreserved hmem
    obtain ⟨r, hr, rfl⟩ := List.mem_map.1 hmem
    exact (hsound r (Text.mem_sortById.1 hr)).2 hreserved
  rw [rules_eq]
  refine List.nodup_cons.2 ⟨?_, List.Nodup.map (hostRule_injective s) ?_⟩
  · intro hmem
    obtain ⟨host, -, heq⟩ := List.mem_map.1 hmem
    exact hostRule_ne_base s host heq
  · refine List.nodup_cons.2 ⟨?_, List.nodup_cons.2 ⟨hfree _ (by decide), ?_⟩⟩
    · rw [List.mem_cons, not_or]
      exact ⟨by decide, hfree _ (by decide)⟩
    · exact (Text.map_sortById_perm _ _ routes).nodup_iff.2 hhosts

/-! ## Names -/

theorem routerName_ne {name : String} (h : ¬"host-".toList <+: name.toList) :
    routerName host ≠ name := by
  rintro rfl
  refine h ?_
  change "host-".toList <+: ("host-" ++ host).toList
  rw [String.toList_append]
  exact List.prefix_append ..

theorem backendName_ne {name : String} (h : ¬"svc-".toList <+: name.toList) :
    backendName host ≠ name := by
  rintro rfl
  refine h ?_
  change "svc-".toList <+: ("svc-" ++ host).toList
  rw [String.toList_append]
  exact List.prefix_append ..

/-- All routers but the one for the domain itself are hardened. -/
theorem router_cases {e : String × Router} (h : e ∈ (document s routes).routers) :
    e = ("redirect-base", baseRouter s) ∨ e.1 ≠ "redirect-base" ∧
      ∃ host backend, e.2 = hardenedRouter s host backend (headersOf e.1) := by
  rcases List.mem_append.1 h with h | h
  · simp only [coreRouters, List.mem_cons, List.not_mem_nil, or_false] at h
    rcases h with rfl | rfl | rfl
    · exact .inl rfl
    · have hname : "core-portal" ≠ "redirect-base" := by decide
      exact .inr ⟨hname, portalHost, "core-portal", rfl⟩
    · have hname : "core-keycloak" ≠ "redirect-base" := by decide
      exact .inr ⟨hname, keycloakHost, "core-keycloak", rfl⟩
  · obtain ⟨r, -, rfl⟩ := List.mem_map.1 h
    refine .inr ⟨routerName_ne (by decide), r.host, backendName r.host, ?_⟩
    rw [headersOf, if_neg (routerName_ne (by decide))]

theorem exists_router_of_mem {e : String × Router} (h : e ∈ (document s routes).routers) :
    ∃ rule backend chain, e.2 = router s rule backend chain := by
  rcases router_cases h with rfl | ⟨-, host, backend, heq⟩
  · exact ⟨_, _, _, rfl⟩
  · exact ⟨_, _, _, heq⟩

theorem mem_backends {name : String} : name ∈ (document s routes).backends.map (·.1) ↔
    name ∈ (document s routes).namedBackends ∧ name ≠ noBackend := by
  have hbackends : (document s routes).backends.map (·.1) =
      ["core-portal", "core-keycloak"] ++
        (Text.sortById (·.host) routes).map (fun r => backendName r.host) := by
    simp [document, coreBackends]
  have hnamed : (document s routes).namedBackends = noBackend ::
      (document s routes).backends.map (·.1) := by
    rw [hbackends]
    simp [Document.namedBackends, document, coreRouters, baseRouter, hardenedRouter, router]
  have hother : ∀ name ∈ (document s routes).backends.map (·.1), name ≠ noBackend := by
    intro name hname
    rw [hbackends] at hname
    rcases List.mem_append.1 hname with hname | hname
    · exact ne_of_mem_of_not_mem hname (by decide)
    · obtain ⟨r, -, rfl⟩ := List.mem_map.1 hname
      exact backendName_ne (by decide)
  rw [hnamed, List.mem_cons]
  constructor
  · intro h
    exact ⟨.inr h, hother name h⟩
  · rintro ⟨rfl | h, hne⟩
    · exact absurd rfl hne
    · exact h

/-! ## Middlewares -/

theorem middlewareNames_eq (s : Settings) : (middlewares s).map (·.1) =
    (if hasSecurityHeaders s then [securityHeaders, loginSecurityHeaders] else []) ++
      (if isRateLimited s then [rateLimit, inFlight] else []) ++ [portalRedirect] := by
  unfold middlewares
  cases hasSecurityHeaders s <;> cases isRateLimited s <;> rfl

theorem middlewareNames_nodup (s : Settings) : ((middlewares s).map (·.1)).Nodup := by
  rw [middlewareNames_eq]
  cases hasSecurityHeaders s <;> cases isRateLimited s <;> decide

theorem mem_middlewareNames_of_mem_hardening {name headers : String}
    (hheaders : headers ∈ [securityHeaders, loginSecurityHeaders])
    (h : name ∈ hardening s headers) : name ∈ (middlewares s).map (·.1) := by
  rw [middlewareNames_eq, List.mem_append, List.mem_append]
  rw [hardening, List.mem_append] at h
  rcases h with h | h
  · exact .inl (.inr h)
  · by_cases hsecure : hasSecurityHeaders s
    · rw [if_pos hsecure, List.mem_singleton] at h
      rw [if_pos hsecure, h]
      exact .inl (.inl hheaders)
    · rw [if_neg hsecure] at h
      exact absurd h List.not_mem_nil

theorem hardening_of_isProduction (h : s.isProduction) (headers : String) :
    hardening s headers = [rateLimit, inFlight, headers] := by
  rw [hardening, isRateLimited, hasSecurityHeaders, h]
  rfl

theorem hardening_of_useHttps (hhttps : s.useHttps) (hproduction : ¬s.isProduction)
    (headers : String) : hardening s headers = [headers] := by
  rw [hardening, isRateLimited, hasSecurityHeaders, hhttps, Bool.or_true, if_neg hproduction]
  rfl

theorem headersOf_mem (name : String) :
    headersOf name ∈ [securityHeaders, loginSecurityHeaders] := by
  unfold headersOf
  split <;> decide

theorem mem_hardening_self {headers : String} (h : hasSecurityHeaders s) :
    headers ∈ hardening s headers := by
  rw [hardening, if_pos h]
  exact List.mem_append_right _ (List.mem_singleton.2 rfl)

theorem mem_middlewares {name : String} : name ∈ (document s routes).middlewares.map (·.1) ↔
    name ∈ (document s routes).namedMiddlewares := by
  constructor
  · intro h
    have hcore : ∀ e ∈ coreRouters s, ∀ name ∈ e.2.middlewares,
        name ∈ (document s routes).namedMiddlewares := fun e he name hname =>
      List.mem_flatMap.2 ⟨e, List.mem_append_left _ he, hname⟩
    have hportal : ∀ name ∈ hardening s securityHeaders,
        name ∈ (document s routes).namedMiddlewares :=
      hcore _ (List.mem_cons_of_mem _ (List.mem_cons_self ..))
    have hkeycloak : ∀ name ∈ hardening s loginSecurityHeaders,
        name ∈ (document s routes).namedMiddlewares :=
      hcore _ (List.mem_cons_of_mem _ (List.mem_cons_of_mem _ (List.mem_cons_self ..)))
    change name ∈ (middlewares s).map (·.1) at h
    rw [middlewareNames_eq, List.mem_append, List.mem_append, List.mem_singleton] at h
    rcases h with (h | h) | rfl
    · by_cases hsecure : hasSecurityHeaders s
      · rw [if_pos hsecure] at h
        simp only [List.mem_cons, List.not_mem_nil, or_false] at h
        rcases h with rfl | rfl
        · exact hportal _ (mem_hardening_self hsecure)
        · exact hkeycloak _ (mem_hardening_self hsecure)
      · rw [if_neg hsecure] at h
        exact absurd h List.not_mem_nil
    · exact hportal _ (List.mem_append_left _ h)
    · exact hcore ("redirect-base", baseRouter s) (List.mem_cons_self ..) _
        (List.mem_singleton.2 rfl)
  · intro h
    obtain ⟨e, he, hname⟩ := List.mem_flatMap.1 h
    rcases router_cases he with rfl | ⟨-, host, backend, heq⟩
    · obtain rfl := List.mem_singleton.1 hname
      change portalRedirect ∈ (middlewares s).map (·.1)
      rw [middlewareNames_eq]
      exact List.mem_append_right _ (List.mem_singleton.2 rfl)
    · rw [heq] at hname
      exact mem_middlewareNames_of_mem_hardening (headersOf_mem _) hname

/-! ## The written document -/

theorem at?_router (doc : Document) (name : String) :
    doc.toData.at? ["http", "routers", name] = (doc.routers.lookup name).map Router.toData := by
  have hrouters : doc.toData.at? ["http", "routers", name] =
      ((Data.record (doc.routers.map fun e => (e.1, e.2.toData))).get? name).bind some := rfl
  rw [hrouters, Option.bind_fun_some, Data.get?_record, lookup_map_snd]

theorem at?_middleware (doc : Document) (name : String) :
    doc.toData.at? ["http", "middlewares", name] =
      (doc.middlewares.lookup name).map Middleware.toData := by
  have hmiddlewares : doc.toData.at? ["http", "middlewares", name] =
      ((Data.record (doc.middlewares.map fun e => (e.1, e.2.toData))).get? name).bind some := rfl
  rw [hmiddlewares, Option.bind_fun_some, Data.get?_record, lookup_map_snd]

theorem Router.get?_tls (r : Router) : r.toData.get? "tls" =
    r.certResolver.map fun name => .record [("certResolver", .str name)] := by
  rw [toData, Data.get?_record]
  cases r.middlewares.isEmpty <;> cases r.certResolver <;> rfl

theorem at?_servers (doc : Document) (name : String) :
    doc.toData.at? ["http", "services", name, "loadBalancer", "servers"] =
      (doc.backends.lookup name).map fun url => .list [.record [("url", .str url)]] := by
  have hbackends : doc.toData.at? ["http", "services", name, "loadBalancer", "servers"] =
      ((Data.record (doc.backends.map fun e => (e.1, backendData e.2))).get? name).bind
        (Data.at? ["loadBalancer", "servers"]) := rfl
  rw [hbackends, Data.get?_record, lookup_map_snd]
  cases doc.backends.lookup name <;> rfl

/-! ## Integrity -/

theorem leads_document (hhosts : (routes.map (·.host)).Nodup) {r : RouteRequest} (hr : r ∈ routes) :
    ∃ router, (document s routes).routers.lookup (routerName r.host) = some router ∧
      router.rule = hostRule s r.host ∧
      (document s routes).toData.at?
        ["http", "services", router.backend, "loadBalancer", "servers"] =
        some (.list [.record [("url", .str (serverUrl r.endpoint))]]) := by
  have hrouter := lookup_router (s := s) hhosts hr
  refine ⟨_, hrouter, rfl, ?_⟩
  have hbackend : (document s routes).backends.lookup (backendName r.host) =
    some (serverUrl r.endpoint) := lookup_backend hhosts hr
  rw [at?_servers]
  exact congrArg (Option.map _) hbackend

/-- From requests without problems a document is generated that has no loose ends. -/
theorem generate_integral (hproblems : routeProblems routes = []) :
    ∃ doc, generate s routes = .ok doc ∧ doc.Integral s routes := by
  obtain ⟨hhosts, -⟩ := routeProblems_eq_nil_iff.1 hproblems
  refine ⟨document s routes, generate_eq_ok_iff.2 ⟨hproblems, rfl⟩, ?_⟩
  exact {
    routers_named := routerNames_perm
    routers_nodup := routerNames_nodup hhosts
    backends_nodup := backendNames_nodup hhosts
    middlewares_nodup := middlewareNames_nodup s
    rules_nodup := rules_nodup hproblems
    routers_written := fun e he => by
      rw [at?_router, lookup_eq_some_of_nodup (routerNames_nodup hhosts) he, Option.map_some]
    middlewares_written := fun e he => by
      have hlookup : (document s routes).middlewares.lookup e.1 = some e.2 :=
        lookup_eq_some_of_nodup (middlewareNames_nodup s) he
      rw [at?_middleware, hlookup, Option.map_some]
    leads := fun r hr => leads_document hhosts hr
    backends_used := fun name => mem_backends
    middlewares_used := fun name => mem_middlewares
    encrypted := fun hhttps e he => by
      obtain ⟨rule, backend, chain, heq⟩ := exists_router_of_mem he
      rw [heq, Router.get?_tls, router, entryPoints, if_pos hhttps, if_pos hhttps]
      exact ⟨rfl, rfl⟩
    plain := fun hhttps e he => by
      obtain ⟨rule, backend, chain, heq⟩ := exists_router_of_mem he
      rw [heq, Router.get?_tls, router, entryPoints, if_neg hhttps, if_neg hhttps]
      exact ⟨rfl, rfl⟩
    production := fun hproduction e he hname => by
      rcases router_cases he with rfl | ⟨-, host, backend, heq⟩
      · exact absurd rfl hname
      · rw [heq]
        exact hardening_of_isProduction hproduction _
    encrypted_elsewhere := fun hhttps hproduction e he hname => by
      rcases router_cases he with rfl | ⟨-, host, backend, heq⟩
      · exact absurd rfl hname
      · rw [heq]
        exact hardening_of_useHttps hhttps hproduction _ }

/-- Hosts that look like names of core routers and of backends. -/
def sampleRoutes : List RouteRequest :=
  [⟨"core-portal", ⟨"demo-docs", 80⟩⟩, ⟨"base", ⟨"demo-wiki", 81⟩⟩, ⟨"svc-base", ⟨"demo-chat", 82⟩⟩]

theorem generate_integral_sample :
    let settings : Settings :=
      { deploymentId := "demo", environment := "prod", useHttps := true, realm := "main" }
    routeProblems sampleRoutes = [] ∧
      ∃ doc, generate settings sampleRoutes = .ok doc ∧ doc.Integral settings sampleRoutes :=
  ⟨by decide +kernel, generate_integral (by decide +kernel)⟩

end Routing

end StackCompiler
