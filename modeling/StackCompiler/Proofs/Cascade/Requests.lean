import Mathlib.Data.List.Forall2
import StackCompiler.Proofs.Cascade.Chain

/-!
# Which requests a portal sends

A portal must not be brought to send requests to addresses of somebody else's choice, although the
descriptor lists addresses. `Network.recorded` adds a list of all requests to the state of a network
without changing what it does (`erases_step`). The requests of each hop are `Disciplined`,
whatever comes of them, and so are those of any sequence of hops (`serve_disciplined`).
-/

namespace StackCompiler

open Session

variable {σ : Type}

/-! ## Probes -/

namespace Probe

/-- A request that was sent, with what came of it. -/
structure Exchange where
  request : Request
  result : Except Failure Outcome

/-- Any response counts, unless it comes from a proxy that found nothing. -/
def Exchange.Reaches (proxy : Option String) (x : Exchange) : Prop :=
  ∃ code, x.result = .ok (.status code) ∧ ¬(proxy.isSome ∧ code = 404)

/-- The network with a list of its exchanges. -/
def Network.recorded (network : Network σ) : Network (σ × List Exchange) :=
  fun request => ExceptT.mk fun t =>
    let (result, t') := (network request).exec (erase t)
    (result, ⟨(t'.state, t.state.2 ++ [⟨request, result⟩]), t'.log⟩)

/-- The request that asks for a service, unless its address names no host. -/
def request? (timeouts : Timeouts) (proxy : Option String) (url : String) : Option Request :=
  match Url.host? url with
  | .ok (some host) => some (request timeouts proxy url host)
  | _ => none

variable (network : Network σ) (timeouts : Timeouts) (proxy : Option String)

theorem exec_recorded (r : Request) (t : Trail (σ × List Exchange)) :
    ∃ state log, (network.recorded r).exec t =
      (((network r).exec (erase t)).1,
        ⟨(state, t.state.2 ++ [⟨r, ((network r).exec (erase t)).1⟩]), log⟩) :=
  ⟨_, _, rfl⟩

theorem erases_recorded (r : Request) : Erases (network.recorded r) (network r) := fun _ => rfl

theorem erases_isReachable (url : String) :
    Erases (isReachable network.recorded timeouts proxy url)
      (isReachable network timeouts proxy url) := by
  refine (erases_ofExcept _).bind fun host => ?_
  cases host with
  | none => exact (erases_note _).bind fun _ => erases_pure _
  | some host =>
    refine (erases_recorded network _).bind fun outcome => ?_
    cases outcome with
    | failed reason => exact (erases_note _).bind fun _ => erases_pure _
    | status code =>
      exact erases_ite ((erases_note _).bind fun _ => erases_pure _) (erases_pure _)

/-- A probe sends one request, or none if the address names no host; the service answers if the
request reaches it. -/
theorem exec_isReachable (url : String) (t : Trail (σ × List Exchange)) :
    ∃ result t' sent, (isReachable network.recorded timeouts proxy url).exec t = (result, t') ∧
      t'.state.2 = t.state.2 ++ Option.toList sent ∧
      sent.map (·.request) = request? timeouts proxy url ∧
      (result = .ok true ↔ ∃ x ∈ sent, x.Reaches proxy) := by
  unfold isReachable request?
  cases hhost : Url.host? url with
  | error e =>
    refine ⟨.error e, t, none, ?_, (List.append_nil _).symm, rfl, by simp⟩
    rw [exec_bind, exec_ofExcept]
  | ok host =>
    rw [exec_bind_of_ok (exec_ofExcept _ t)]
    cases host with
    | none => exact ⟨.ok false, _, none, rfl, (List.append_nil _).symm, rfl, by simp⟩
    | some host =>
      obtain ⟨state, log, hsend⟩ := exec_recorded network (request timeouts proxy url host) t
      generalize ((network (request timeouts proxy url host)).exec (erase t)).1 = result at hsend
      cases result with
      | error e =>
        exact ⟨.error e, _, some ⟨_, .error e⟩, exec_bind_of_error hsend, rfl, rfl,
          by simp [Exchange.Reaches]⟩
      | ok outcome =>
        dsimp only
        rw [exec_bind_of_ok hsend]
        cases outcome with
        | failed reason =>
          exact ⟨.ok false, _, some ⟨_, .ok (.failed reason)⟩, rfl, rfl, rfl,
            by simp [Exchange.Reaches]⟩
        | status code =>
          dsimp only
          cases hroute : isWithoutRoute proxy code with
          | true =>
            refine ⟨.ok false, _, some ⟨_, .ok (.status code)⟩, rfl, rfl, rfl, ?_⟩
            simpa [Exchange.Reaches, isWithoutRoute] using hroute
          | false =>
            refine ⟨.ok true, _, some ⟨_, .ok (.status code)⟩, rfl, rfl, rfl, ?_⟩
            simpa [Exchange.Reaches, isWithoutRoute] using hroute

end Probe

/-! ## Searches -/

namespace Portal

open Probe

variable (network : Network σ) (timeouts : Timeouts) (proxy : Option String)

/-- The requests of a search through some services: they are for the first of them, one for each
that has a host, and only the last of them may reach its service. If one does, its service is found;
if none does, all services were asked. -/
structure SearchRequests (es : List Descriptor.Entry)
    (result : Except Failure (List String × Option Descriptor.Entry)) (xs : List Exchange) :
    Prop where
  asked : ∃ asked, asked <+: es ∧
    xs.map (·.request) = asked.filterMap fun e => request? timeouts proxy e.url
  stops : ∀ x ∈ xs.dropLast, ¬x.Reaches proxy
  found : ∀ missed e, result = .ok (missed, some e) → e ∈ es ∧ ∃ x, xs.getLast? = some x ∧
    x.Reaches proxy ∧ request? timeouts proxy e.url = some x.request
  exhausted : ∀ missed, result = .ok (missed, none) → (∀ x ∈ xs, ¬x.Reaches proxy) ∧
    xs.map (·.request) = es.filterMap fun e => request? timeouts proxy e.url

namespace SearchRequests

variable {timeouts proxy} {e : Descriptor.Entry} {es : List Descriptor.Entry}
variable {sent : Option Exchange} {result : Except Failure (List String × Option Descriptor.Entry)}

theorem nil : SearchRequests timeouts proxy [] (.ok ([], none)) [] :=
  ⟨⟨[], List.prefix_rfl, rfl⟩, by simp, by simp, by simp⟩

theorem of_failure (hsent : sent.map (·.request) = request? timeouts proxy e.url) (f : Failure) :
    SearchRequests timeouts proxy (e :: es) (.error f) sent.toList := by
  refine ⟨⟨[e], List.prefix_append [e] es, ?_⟩, ?_, nofun, nofun⟩
  · rw [List.filterMap_cons, ← hsent]
    cases sent <;> rfl
  · cases sent <;> simp

theorem of_answer (hsent : sent.map (·.request) = request? timeouts proxy e.url)
    (hreach : ∃ x ∈ sent, x.Reaches proxy) :
    SearchRequests timeouts proxy (e :: es) (.ok ([], some e)) sent.toList := by
  obtain ⟨x, rfl, hx⟩ := hreach
  refine ⟨⟨[e], List.prefix_append [e] es, ?_⟩, by simp, ?_, nofun⟩
  · rw [List.filterMap_cons, ← hsent]
    rfl
  · rintro missed _ ⟨⟩
    exact ⟨List.mem_cons_self .., x, rfl, hx, hsent.symm⟩

/-- A search goes on after a service that does not answer. -/
theorem cons {xs : List Exchange} (h : SearchRequests timeouts proxy es result xs)
    (hsent : sent.map (·.request) = request? timeouts proxy e.url)
    (hmissed : ¬∃ x ∈ sent, x.Reaches proxy) :
    SearchRequests timeouts proxy (e :: es) (result.map fun r => (e.id :: r.1, r.2))
      (sent.toList ++ xs) := by
  have hunreached : ∀ x ∈ sent.toList, ¬x.Reaches proxy := fun x hx hreaches =>
    hmissed ⟨x, Option.mem_toList.1 hx, hreaches⟩
  have hrequests : ∀ asked, xs.map (·.request) =
      asked.filterMap (fun e => request? timeouts proxy e.url) →
        (sent.toList ++ xs).map (·.request) =
          (e :: asked).filterMap fun e => request? timeouts proxy e.url := by
    intro asked hxs
    rw [List.map_append, hxs, List.filterMap_cons, ← hsent]
    cases sent <;> rfl
  constructor
  case asked =>
    obtain ⟨asked, hprefix, hxs⟩ := h.asked
    exact ⟨e :: asked, List.cons_prefix_cons.2 ⟨rfl, hprefix⟩, hrequests asked hxs⟩
  case stops =>
    intro x hx
    by_cases hnil : xs = []
    · rw [hnil, List.append_nil] at hx
      exact hunreached x (List.dropLast_subset _ hx)
    · rw [List.dropLast_append_of_ne_nil hnil, List.mem_append] at hx
      exact hx.elim (hunreached x) (h.stops x)
  case found =>
    rintro _ e' hresult
    rcases result with f | ⟨missed, found⟩
    · cases hresult
    cases hresult
    obtain ⟨hmem, x, hlast, hx⟩ := h.found missed e' rfl
    refine ⟨List.mem_cons_of_mem _ hmem, x, ?_, hx⟩
    rw [List.getLast?_append, hlast, Option.some_or]
  case exhausted =>
    rintro _ hresult
    rcases result with f | ⟨missed, found⟩
    · cases hresult
    cases hresult
    obtain ⟨hxs, hall⟩ := h.exhausted missed rfl
    exact ⟨fun x hx => (List.mem_append.1 hx).elim (hunreached x) (hxs x), hrequests es hall⟩

end SearchRequests

theorem exec_findReachable_recorded : ∀ es t, ∃ result t' xs,
    (findReachable (isReachable network.recorded timeouts proxy) es).exec t = (result, t') ∧
      t'.state.2 = t.state.2 ++ xs ∧ SearchRequests timeouts proxy es result xs
  | [], t => ⟨.ok ([], none), t, [], rfl, (List.append_nil _).symm, .nil⟩
  | e :: es, t => by
    obtain ⟨answer, t₁, sent, hprobe, hxs, hrequest, hreach⟩ :=
      exec_isReachable network timeouts proxy e.url t
    rw [findReachable]
    cases answer with
    | error f =>
      exact ⟨.error f, t₁, _, exec_bind_of_error hprobe, hxs, .of_failure hrequest f⟩
    | ok answer =>
      rw [exec_bind_of_ok hprobe]
      cases answer with
      | true => exact ⟨_, _, _, rfl, hxs, .of_answer hrequest (hreach.1 rfl)⟩
      | false =>
        rw [if_neg Bool.false_ne_true, exec_note_bind]
        generalize t₁.log ++ _ = log
        obtain ⟨result, t₂, xs, hfind, hys, hsearch⟩ :=
          exec_findReachable_recorded es ⟨t₁.state, log⟩
        refine ⟨_, t₂, _, ?_, ?_, hsearch.cons hrequest (mt hreach.2 (by simp))⟩
        · rw [exec_bind, hfind]
          cases result <;> rfl
        · rw [hys, hxs, List.append_assoc]

/-! ## Hops -/

variable (p : Portal)

/-- The requests of a hop that starts at a position of the work list. -/
structure Disciplined (start : Nat) (result : Except Failure Hop) (xs : List Exchange) :
    Prop where
  asked : ∃ asked, asked <+: p.workList.drop start ∧ xs.map (·.request) =
    asked.filterMap fun e => request? timeouts p.settings.proxy? e.url
  stops : ∀ x ∈ xs.dropLast, ¬x.Reaches p.settings.proxy?
  found : ∀ hop, result = .ok hop → ¬hop.isDone →
    ∃ x, xs.getLast? = some x ∧ x.Reaches p.settings.proxy?
  exhausted : ∀ hop, result = .ok hop → hop.isDone → (∀ x ∈ xs, ¬x.Reaches p.settings.proxy?) ∧
    (¬p.probesDisabled → xs.map (·.request) =
      (p.workList.drop start).filterMap fun e => request? timeouts p.settings.proxy? e.url)
  production : p.settings.environment = "prod" → p.settings.proxy? = none → xs = []
  proxied : ∀ proxyUrl, p.settings.proxy? = some proxyUrl → ∀ x ∈ xs, x.request.url = proxyUrl ∧
    ∃ e ∈ p.workList, ∃ host, Url.host? e.url = .ok (some host) ∧ x.request.host = some host
  direct : p.settings.proxy? = none → ∀ x ∈ xs, x.request.host = none ∧
    ∃ e ∈ p.workList, x.request.url = e.url
  unredirected : ∀ x ∈ xs, x.request.followsRedirects = false

theorem request?_eq_some_iff {url : String} {r : Request} :
    request? timeouts proxy url = some r ↔
      ∃ host, Url.host? url = .ok (some host) ∧ r = request timeouts proxy url host := by
  unfold request?
  rcases Url.host? url with _ | _ | host <;> simp [eq_comm]

/-- What a search found decides the hop. -/
def hopOf (endUrl : String) (found : List String × Option Descriptor.Entry) : Hop :=
  match found.2 with
  | some e => p.hopTo found.1 e
  | none => lastHop found.1 endUrl

theorem SearchRequests.disciplined {lastId : Option String} {xs : List Exchange}
    {result : Except Failure (List String × Option Descriptor.Entry)}
    (h : SearchRequests timeouts p.settings.proxy? (p.restAfter lastId) result xs)
    (endUrl : String) :
    Disciplined timeouts p ((lastId.bind p.positionAfter?).getD 0)
      (result.map (p.hopOf endUrl)) xs := by
  obtain ⟨asked, hasked, hxs⟩ := h.asked
  have hrequest : ∀ x ∈ xs, ∃ e ∈ p.workList, ∃ host, Url.host? e.url = .ok (some host) ∧
      x.request = request timeouts p.settings.proxy? e.url host := by
    intro x hx
    have hmem : x.request ∈ xs.map (·.request) := List.mem_map_of_mem hx
    rw [hxs, List.mem_filterMap] at hmem
    obtain ⟨e, he, heq⟩ := hmem
    have hleft : e ∈ p.workList := p.restAfter_subset lastId (hasked.subset he)
    exact ⟨e, hleft, (request?_eq_some_iff timeouts _).1 heq⟩
  constructor
  case asked => exact ⟨asked, hasked.trans (p.restAfter_prefix lastId), hxs⟩
  case stops => exact h.stops
  case found =>
    intro hop hresult hdone
    rcases result with f | ⟨missed, _ | e⟩
    · cases hresult
    · cases hresult
      exact absurd rfl hdone
    · obtain ⟨-, x, hlast, hx, -⟩ := h.found missed e rfl
      exact ⟨x, hlast, hx⟩
  case exhausted =>
    intro hop hresult hdone
    rcases result with f | ⟨missed, _ | e⟩
    · cases hresult
    · obtain ⟨hunreached, hall⟩ := h.exhausted missed rfl
      exact ⟨hunreached, fun hd => by rw [hall, restAfter_of_enabled p hd]⟩
    · cases hresult
      cases hdone
  case production =>
    intro hproduction hproxy
    have hdisabled : p.probesDisabled := by
      simp [probesDisabled, Settings.isProduction, productionEnvironment, hproduction, hproxy]
    rw [restAfter_of_disabled p hdisabled, List.prefix_nil] at hasked
    rwa [hasked, List.filterMap_nil, List.map_eq_nil_iff] at hxs
  case proxied =>
    intro proxyUrl hproxy x hx
    obtain ⟨e, he, host, hhost, heq⟩ := hrequest x hx
    rw [heq, hproxy]
    exact ⟨rfl, e, he, host, hhost, rfl⟩
  case direct =>
    intro hproxy x hx
    obtain ⟨e, he, host, hhost, heq⟩ := hrequest x hx
    rw [heq, hproxy]
    exact ⟨rfl, e, he, rfl⟩
  case unredirected =>
    intro x hx
    obtain ⟨e, he, host, hhost, heq⟩ := hrequest x hx
    rw [heq]
    cases p.settings.proxy? <;> rfl

/-- A hop comes to what its search comes to. -/
theorem exec_step_of_search (prober : Prober σ) (now : Number) (lastId idToken : Option String)
    (t : Trail σ) : ∃ log, ∀ {result t₁},
      (findReachable prober (p.restAfter lastId)).exec ⟨t.state, log⟩ = (result, t₁) →
        ∃ log', (p.step prober now lastId idToken).exec t =
          (result.map (p.hopOf (p.endSessionUrlFor (Token.verdict now idToken) idToken)),
            ⟨t₁.state, log'⟩) := by
  obtain ⟨log₀, hstart⟩ : ∃ log, (noteStart lastId).exec t = (.ok (), ⟨t.state, log⟩) := by
    cases lastId <;> exact ⟨_, rfl⟩
  obtain ⟨log₁, hrest⟩ := exec_remaining p lastId ⟨t.state, log₀⟩
  refine ⟨log₁, fun {result t₁} hfind => ?_⟩
  unfold step
  rw [exec_bind_of_ok hstart, exec_bind_of_ok hrest]
  rcases result with f | ⟨missed, _ | e⟩
  · exact ⟨t₁.log, exec_bind_of_error hfind⟩
  · obtain ⟨log₂, hnote⟩ : ∃ log, (noteEnd idToken).exec t₁ = (.ok (), ⟨t₁.state, log⟩) := ⟨_, rfl⟩
    obtain ⟨log₃, hend⟩ := exec_endSessionUrl p now idToken ⟨t₁.state, log₂⟩
    refine ⟨log₃, ?_⟩
    rw [exec_bind_of_ok hfind]
    dsimp only
    rw [exec_bind_of_ok hnote, exec_bind_of_ok hend]
    rfl
  · exact ⟨t₁.log, exec_bind_of_ok hfind⟩

theorem exec_step_recorded (now : Number) (lastId idToken : Option String)
    (t : Trail (σ × List Exchange)) : ∃ result t' xs,
    (p.step (p.prober timeouts network.recorded) now lastId idToken).exec t = (result, t') ∧
      t'.state.2 = t.state.2 ++ xs ∧
      Disciplined timeouts p ((lastId.bind p.positionAfter?).getD 0) result xs := by
  obtain ⟨log, hstep⟩ :=
    exec_step_of_search p (p.prober timeouts network.recorded) now lastId idToken t
  obtain ⟨result, t₁, xs, hfind, hxs, hsearch⟩ := exec_findReachable_recorded network timeouts
    p.settings.proxy? (p.restAfter lastId) ⟨t.state, log⟩
  obtain ⟨log', hstep⟩ := hstep hfind
  exact ⟨_, _, xs, hstep, hxs, hsearch.disciplined timeouts p _⟩

/-! ## Sequences of hops -/

/-- A browser that arrives, at some time, from a service or from elsewhere. -/
structure Arrival where
  now : Number
  lastId : Option String
  idToken : Option String

/-- The hops for some browsers in turn, each with the requests that were sent for it. -/
def serve (network : Network σ) :
    List Arrival → Trail σ → List (Except Failure Hop × List Exchange)
  | [], _ => []
  | a :: as, t =>
    let (result, t') := (p.step (p.prober timeouts network.recorded) a.now a.lastId a.idToken).exec
      ⟨(t.state, []), t.log⟩
    (result, t'.state.2) :: serve network as (erase t')

/-- Whatever comes of its requests, a portal sends for each browser only those that it may send, and
recording them changes nothing. -/
theorem serve_disciplined :
    (∀ now lastId idToken, Erases (p.step (p.prober timeouts network.recorded) now lastId idToken)
      (p.step (p.prober timeouts network) now lastId idToken)) ∧
    ∀ as t, List.Forall₂ (fun a (answer : Except Failure Hop × List Exchange) =>
      ∃ start, (∀ u : Trail σ, ((p.startIndex a.lastId).exec u).1 = .ok start) ∧
        Disciplined timeouts p start answer.1 answer.2) as (p.serve timeouts network as t) := by
  refine ⟨erases_step p (erases_isReachable network timeouts _), fun as => ?_⟩
  induction as with
  | nil => exact fun _ => .nil
  | cons a as ih =>
    intro t
    obtain ⟨result, t', xs, hstep, hxs, hdisciplined⟩ :=
      exec_step_recorded network timeouts p a.now a.lastId a.idToken ⟨(t.state, []), t.log⟩
    rw [serve, hstep]
    refine .cons ⟨(a.lastId.bind p.positionAfter?).getD 0, fun u => ?_, ?_⟩ (ih _)
    · obtain ⟨log, hstart⟩ := exec_startIndex p a.lastId u
      rw [hstart]
    · rwa [hxs]

end Portal

end StackCompiler
