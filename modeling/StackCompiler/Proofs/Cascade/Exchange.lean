import StackCompiler.Portal.Site
import StackCompiler.Proofs.Cascade.Agreement
import StackCompiler.Proofs.Http.Message

/-!
# The cascade over HTTP

A browser that follows the redirects of the portal, where every service sends it straight back, goes
through the same hops as `Portal.run` (`exec_exchange`). All that it brings along from one request to
the next is the id of the last service, inside an address that is encoded twice
(`nextQuery?_signOutUrl`).
-/

namespace StackCompiler

namespace Portal

open Session

variable {σ : Type} (p : Portal) (now : Number) (idToken : Option String)

/-! ## The browser -/

open Http

/-- How a sign-out address marks where a service sends the browser back to. -/
def returnMark : List Char := '?' :: "rd=".toList

/-- How an address of the portal marks the service that the browser comes from. -/
def serviceMark : List Char := '?' :: "serviceId=".toList

/-- The query with which a browser comes back from an address, if it comes back at all. -/
def nextQuery? (location : String) : Option String :=
  (Text.afterLast? returnMark location.toList).map fun target =>
    let address := Percent.decodeChars target
    "serviceId=" ++ String.ofList ((Text.afterLast? serviceMark address).getD address)

/-- The request of a browser that holds the token in its cookie, if there is one. -/
def browserRequest (idToken : Option String) (query : String) : Request where
  path := "/auth/logout"
  query := query
  headers := idToken.toList.map fun token => ("cookie", tokenCookie ++ "=" ++ token)

/-- The answers to a browser that follows the redirects through the services, at most as many as
there is fuel. -/
def exchange (prober : Prober σ) : Nat → String → Session σ (List Response)
  | 0, _ => throw .cascadeWithoutEnd
  | fuel + 1, query => do
    let answer ← respond (some (p, prober)) now (browserRequest idToken query)
    match answer.location.bind nextQuery? with
    | none => return [answer]
    | some next => return answer :: (← exchange prober fuel next)

/-! ## Addresses -/

theorem toList_signOutUrl (e : Descriptor.Entry) : (Percent.encodeWith isLocationChar
      (p.signOutUrl e)).toList =
    (Percent.encodeWith isLocationChar (e.url ++ "/oauth2/sign_out")).toList ++ returnMark ++
      (Percent.encode (p.continueUrl e.id)).toList := by
  have hmark : Percent.encodeWith isLocationChar "?rd=" = "?rd=" := by decide
  have hsplit : p.signOutUrl e =
      e.url ++ "/oauth2/sign_out" ++ "?rd=" ++ Percent.encode (p.continueUrl e.id) := by
    simp [signOutUrl, String.append_assoc]
  rw [hsplit, encodeWith_append, encodeWith_append _ _ "?rd=", hmark,
    encodeWith_isLocationChar_encode]
  simp [returnMark]

theorem toList_continueUrl (id : String) : (p.continueUrl id).toList =
    (p.settings.portalUrl ++ "/auth/logout").toList ++ serviceMark ++
      (Percent.encode id).toList := by
  simp [continueUrl, serviceMark]

/-- From the sign-out address of a service the browser comes back with the id of the service. -/
theorem nextQuery?_signOutUrl (e : Descriptor.Entry) :
    nextQuery? (Percent.encodeWith isLocationChar (p.signOutUrl e)) =
      some ("serviceId=" ++ Percent.encode e.id) := by
  have hunmarked : ∀ s : String, '?' ∉ (Percent.encode s).toList := fun s =>
    Percent.not_mem_encode (by decide) (by decide)
  have hreturn := Text.afterLast?_append "rd=".toList (by decide)
    (hunmarked (p.continueUrl e.id))
    (Percent.encodeWith isLocationChar (e.url ++ "/oauth2/sign_out")).toList
  have hservice := Text.afterLast?_append "serviceId=".toList (by decide)
    (hunmarked e.id) (p.settings.portalUrl ++ "/auth/logout").toList
  rw [nextQuery?, toList_signOutUrl, returnMark, hreturn, Option.map_some,
    Percent.decodeChars_encode, toList_continueUrl, serviceMark]
  dsimp only
  rw [hservice, Option.getD_some, String.ofList_toList]

/-- The parameters of the end of a session. -/
def endParameters (verdict : Token.Verdict) : String :=
  p.sessionParameter verdict idToken ++ "&post_logout_redirect_uri=" ++ Percent.encode p.completeUrl

theorem toList_endSessionUrlFor (verdict : Token.Verdict) :
    (p.endSessionUrlFor verdict idToken).toList = p.settings.keycloakUrl.toList ++
      '/' :: ("realms".toList ++ '/' :: (p.settings.realm.toList ++ '/' ::
        ("protocol".toList ++ '/' :: ("openid-connect".toList ++ '/' ::
          ("logout".toList ++ '?' :: (p.endParameters idToken verdict).toList))))) := by
  simp [endSessionUrlFor, endParameters]

theorem unmarked_endParameters (verdict : Token.Verdict) :
    '?' ∉ (p.endParameters idToken verdict).toList ∧
      ∀ cs, ¬ 'r' :: cs <+: (p.endParameters idToken verdict).toList := by
  have hunmarked : ∀ s : String, '?' ∉ (Percent.encode s).toList := fun s =>
    Percent.not_mem_encode (by decide) (by decide)
  unfold endParameters sessionParameter
  split
  · constructor
    · simp [hunmarked]
    · intro cs h
      simp at h
  · constructor
    · simp [hunmarked]
    · intro cs h
      simp at h

theorem not_infix_endSessionUrl (hkeycloak : ¬returnMark <:+: p.settings.keycloakUrl.toList)
    (hrealm : ¬returnMark <:+: p.settings.realm.toList) (verdict : Token.Verdict) :
    ¬returnMark <:+: (p.endSessionUrlFor verdict idToken).toList := by
  obtain ⟨hunmarked, hstart⟩ := unmarked_endParameters p idToken verdict
  have hslash : '/' ∉ returnMark := by decide
  rw [toList_endSessionUrlFor]
  intro h
  rcases Text.infix_of_infix_append_cons hslash h with h | h
  · exact hkeycloak h
  rcases Text.infix_of_infix_append_cons hslash h with h | h
  · exact absurd h (by decide)
  rcases Text.infix_of_infix_append_cons hslash h with h | h
  · exact hrealm h
  rcases Text.infix_of_infix_append_cons hslash h with h | h
  · exact absurd h (by decide)
  rcases Text.infix_of_infix_append_cons hslash h with h | h
  · exact absurd h (by decide)
  rcases List.infix_cons_iff.1 (Text.infix_of_infix_append (by decide) h) with h | h
  · exact hstart _ (List.cons_prefix_cons.1 h).2
  · exact Text.not_infix_of_not_mem (List.mem_cons_self ..) hunmarked h

/-- From the end of the session the browser does not come back. -/
theorem nextQuery?_endSessionUrl (hkeycloak : ¬returnMark <:+: p.settings.keycloakUrl.toList)
    (hrealm : ¬returnMark <:+: p.settings.realm.toList) (verdict : Token.Verdict) :
    nextQuery? (Percent.encodeWith isLocationChar (p.endSessionUrlFor verdict idToken)) = none := by
  rw [nextQuery?, Option.map_eq_none_iff, Text.afterLast?_eq_none_iff (by decide),
    Percent.toList_encodeWith]
  exact fun h => not_infix_endSessionUrl p idToken hkeycloak hrealm verdict
    (Percent.infix_of_infix_encoded (by decide) (by decide) h)

/-! ## Answers -/

/-- The query of a browser that comes from a service, or from elsewhere. -/
def queryAfter (lastId : Option String) : String :=
  match lastId with
  | none => ""
  | some id => "serviceId=" ++ Percent.encode id

theorem parameter?_browserRequest (lastId : Option String) :
    (browserRequest idToken (queryAfter lastId)).parameter? "serviceId" = lastId := by
  cases lastId with
  | none => rfl
  | some id =>
    have hparameters : parameters ("serviceId" ++ "=" ++ Percent.encode id) = [("serviceId", id)] :=
      parameters_encode (List.all_eq_true.1 (by decide))
    change lastValue? (parameters ("serviceId" ++ "=" ++ Percent.encode id)) "serviceId" = some id
    rw [hparameters]
    rfl

/-- The token has no characters but those of an unpadded base 64 text for URLs, and points. -/
def IsPlainToken (idToken : Option String) : Prop :=
  ∀ token ∈ idToken, ∀ c ∈ token.toList, Percent.isUnreserved c

theorem cookie?_browserRequest (htoken : IsPlainToken idToken) (query : String) :
    (browserRequest idToken query).cookie? tokenCookie = idToken := by
  cases idToken with
  | none => rfl
  | some token =>
    have hcookies := cookies_plain tokenCookie (List.all_eq_true.1 (by decide)) (htoken token rfl)
      (by decide)
    have hlower : "cookie".toLower == "cookie" := by decide +kernel
    have hheaders : (browserRequest (some token) query).headersOf "cookie" =
        [tokenCookie ++ "=" ++ token] := by
      simp [Request.headersOf, browserRequest, hlower]
    rw [Request.cookie?, Request.cookies, hheaders, List.flatMap_singleton, hcookies]
    rfl

/-- The answer that a hop makes. -/
def answerTo (hop : Hop) : Response :=
  redirect 303 hop.redirectUrl (hop.clearedCookies.map (expiredCookie p.settings))

theorem respond_eq_signOutPage (prober : Prober σ) (query : String) :
    respond (some (p, prober)) now (browserRequest idToken query) =
      p.signOutPage prober now (browserRequest idToken query) := by
  have hpage : page? "/auth/logout" = some .signOut := by decide +kernel
  have hallows : Page.signOut.allows "GET" := by decide
  simp [respond, browserRequest, hpage, hallows]

theorem respond_browserRequest (prober : Prober σ)
    (hdomain : isHeaderText (p.settings.cookieDomain.getD "")) (htoken : IsPlainToken idToken)
    (lastId : Option String) :
    respond (some (p, prober)) now (browserRequest idToken (queryAfter lastId)) =
      p.step prober now lastId idToken >>= fun hop => pure (p.answerTo hop) := by
  rw [respond_eq_signOutPage, signOutPage]
  rw [parameter?_browserRequest, cookie?_browserRequest idToken htoken]
  simp only [expiredCookies, if_pos hdomain]
  rfl

/-- Without cookies that can be expired there is no answer. -/
theorem exec_respond_of_wide_domain {prober : Prober σ}
    (hdomain : ¬isHeaderText (p.settings.cookieDomain.getD "")) (htoken : IsPlainToken idToken)
    {lastId : Option String} {t t' : Trail σ} {hop : Hop}
    (hstep : (p.step prober now lastId idToken).exec t = (.ok hop, t')) :
    (respond (some (p, prober)) now (browserRequest idToken (queryAfter lastId))).exec t =
      (.error .notHeaderText, t') := by
  rw [respond_eq_signOutPage, signOutPage, parameter?_browserRequest,
    cookie?_browserRequest idToken htoken, exec_bind_of_ok hstep, expiredCookies, if_neg hdomain]
  rfl

/-- Where the browser comes back from a service. -/
theorem next_answerTo_hopTo (skipped : List String) (e : Descriptor.Entry) :
    (p.answerTo (p.hopTo skipped e)).location.bind nextQuery? = some (queryAfter (some e.id)) := by
  have hlocation : (p.answerTo (p.hopTo skipped e)).location =
      some (Percent.encodeWith isLocationChar (p.signOutUrl e)) := rfl
  rw [hlocation, Option.bind_some, nextQuery?_signOutUrl, queryAfter]

theorem next_answerTo_lastHop (hkeycloak : ¬returnMark <:+: p.settings.keycloakUrl.toList)
    (hrealm : ¬returnMark <:+: p.settings.realm.toList) (skipped : List String)
    (verdict : Token.Verdict) :
    (p.answerTo (lastHop skipped (p.endSessionUrlFor verdict idToken))).location.bind nextQuery? =
      none := by
  have hlocation : (p.answerTo (lastHop skipped (p.endSessionUrlFor verdict idToken))).location =
      some (Percent.encodeWith isLocationChar (p.endSessionUrlFor verdict idToken)) := rfl
  rw [hlocation, Option.bind_some, nextQuery?_endSessionUrl p idToken hkeycloak hrealm]

/-! ## Hops -/

/-- A hop goes to a service, or to the end of the session. -/
theorem hop_cases {prober : Prober σ} {lastId : Option String} {t t' : Trail σ} {hop : Hop}
    (h : (p.step prober now lastId idToken).exec t = (.ok hop, t')) :
    (∃ skipped e, hop = p.hopTo skipped e) ∨ ∃ skipped,
      hop = lastHop skipped (p.endSessionUrlFor (Token.verdict now idToken) idToken) := by
  obtain ⟨_, t₁, -, h⟩ := exec_bind_eq_ok_iff.1 h
  obtain ⟨es, t₂, -, h⟩ := exec_bind_eq_ok_iff.1 h
  obtain ⟨⟨skipped, _ | e⟩, t₃, -, h⟩ := exec_bind_eq_ok_iff.1 h
  · obtain ⟨_, t₄, -, h⟩ := exec_bind_eq_ok_iff.1 h
    obtain ⟨url, t₅, hend, h⟩ := exec_bind_eq_ok_iff.1 h
    obtain ⟨log, hurl⟩ := exec_endSessionUrl p now idToken t₄
    rw [hurl] at hend
    cases hend
    cases h
    exact .inr ⟨skipped, rfl⟩
  · cases h
    exact .inl ⟨skipped, e, rfl⟩

variable {p now idToken} in
/-- The exchange goes through the hops of the chain. -/
theorem exec_exchange (prober : Prober σ)
    (hdomain : isHeaderText (p.settings.cookieDomain.getD "")) (htoken : IsPlainToken idToken)
    (hkeycloak : ¬returnMark <:+: p.settings.keycloakUrl.toList)
    (hrealm : ¬returnMark <:+: p.settings.realm.toList) : ∀ fuel lastId t,
      (p.exchange now idToken prober fuel (queryAfter lastId)).exec t =
        (((p.hopsFrom prober now idToken fuel lastId).exec t).1.map (List.map p.answerTo),
          ((p.hopsFrom prober now idToken fuel lastId).exec t).2)
  | 0, _, _ => rfl
  | fuel + 1, lastId, t => by
    have ih := exec_exchange prober hdomain htoken hkeycloak hrealm fuel
    rw [exchange, hopsFrom, respond_browserRequest p now idToken prober hdomain htoken]
    rcases hstep : (p.step prober now lastId idToken).exec t with ⟨f | hop, t'⟩
    · rw [exec_bind_of_error (exec_bind_of_error hstep), exec_bind_of_error hstep]
      rfl
    have hanswer : (p.step prober now lastId idToken >>= fun hop => pure (p.answerTo hop)).exec t =
        (.ok (p.answerTo hop), t') := by
      rw [exec_bind_of_ok hstep, exec_pure]
    rw [exec_bind_of_ok hanswer, exec_bind_of_ok hstep]
    rcases hop_cases p now idToken hstep with ⟨skipped, e, rfl⟩ | ⟨skipped, rfl⟩
    · have hid : (p.hopTo skipped e).nextId = some e.id := rfl
      have hdone : ¬(p.hopTo skipped e).isDone := Bool.false_ne_true
      rw [next_answerTo_hopTo, if_neg hdone, hid]
      dsimp only
      rw [exec_bind, exec_bind, ih]
      rcases (p.hopsFrom prober now idToken fuel (some e.id)).exec t' with ⟨f | hs, t''⟩ <;> rfl
    · rw [next_answerTo_lastHop p idToken hkeycloak hrealm]
      rfl

/-! ## The whole exchange -/

/-- The hops of a chain that ends: to services, and at last to the end of the session. -/
theorem exists_concat_of_hopsFrom {prober : Prober σ} : ∀ {fuel lastId t t' hs},
    (p.hopsFrom prober now idToken fuel lastId).exec t = (.ok hs, t') →
      ∃ init skipped, hs = init ++
          [lastHop skipped (p.endSessionUrlFor (Token.verdict now idToken) idToken)] ∧
        ∀ hop ∈ init, ∃ skipped e, hop = p.hopTo skipped e
  | 0, _, _, _, _, h => by cases h
  | fuel + 1, lastId, t, t', hs, h => by
    obtain ⟨hop, t₁, hstep, h⟩ := exec_bind_eq_ok_iff.1 h
    rcases hop_cases p now idToken hstep with ⟨skipped, e, rfl⟩ | ⟨skipped, rfl⟩
    · have hdone : ¬(p.hopTo skipped e).isDone := Bool.false_ne_true
      rw [if_neg hdone] at h
      obtain ⟨hs', t₂, hrest, h⟩ := exec_bind_eq_ok_iff.1 h
      cases h
      obtain ⟨init, skipped', rfl, hinit⟩ := exists_concat_of_hopsFrom hrest
      exact ⟨p.hopTo skipped e :: init, skipped', rfl,
        List.forall_mem_cons.2 ⟨⟨skipped, e, rfl⟩, hinit⟩⟩
    · cases h
      exact ⟨[], skipped, rfl, by simp⟩

/-- Answers that redirect a browser through a trace, and forget its cookies: the token only at the
end. -/
structure Mirrors (trace : Trace) (answers : List Response) : Prop where
  status : ∀ a ∈ answers, a.status = 303
  locations : answers.map (·.location) = (trace.navigations ++ [trace.endSessionUrl]).map fun url =>
    some (Percent.encodeWith isLocationChar url)
  cookies : ∀ a ∈ answers.dropLast, a.cookies.map (·.name) = ["access_token", "oauth_state"]
  lastCookies : ∀ a ∈ answers.getLast?,
    a.cookies.map (·.name) = ["access_token", "oauth_state", "id_token"]

theorem mirrors_ofHops {prober : Prober σ} {fuel : Nat} {lastId : Option String} {t t' : Trail σ}
    {hs : List Hop} (h : (p.hopsFrom prober now idToken fuel lastId).exec t = (.ok hs, t')) :
    Mirrors (Trace.ofHops hs) (hs.map p.answerTo) := by
  obtain ⟨init, skipped, rfl, hinit⟩ := exists_concat_of_hopsFrom p now idToken h
  generalize hlast : lastHop skipped (p.endSessionUrlFor (Token.verdict now idToken) idToken) = last
  have hdone : last.isDone := by rw [← hlast]; rfl
  have hundone : ∀ hop ∈ init, ¬hop.isDone := by
    intro hop hmem
    obtain ⟨_, _, rfl⟩ := hinit hop hmem
    exact Bool.false_ne_true
  constructor
  case status =>
    intro a ha
    obtain ⟨_, -, rfl⟩ := List.mem_map.1 ha
    rfl
  case locations =>
    have hnavigations : (init ++ [last]).filter (!·.isDone) = init := by
      rw [List.filter_append, List.filter_eq_self.2 (by simpa using hundone)]
      simp [hdone]
    have hend : (init ++ [last]).find? (·.isDone) = some last := by
      rw [List.find?_append, List.find?_eq_none.2 hundone]
      simp [hdone]
    rw [Trace.ofHops, hnavigations, hend]
    simp [answerTo, redirect]
  case cookies =>
    intro a ha
    rw [List.map_append, List.map_singleton, List.dropLast_concat] at ha
    obtain ⟨hop, hmem, rfl⟩ := List.mem_map.1 ha
    obtain ⟨_, _, rfl⟩ := hinit hop hmem
    rfl
  case lastCookies =>
    intro a ha
    rw [List.map_append, List.map_singleton, List.getLast?_concat, Option.mem_some_iff] at ha
    rw [← ha, ← hlast]
    rfl

/-- Whether a service answers, according to a table of outcomes. -/
def reachableIn (table : Probe.Request → Probe.Outcome) (timeouts : Probe.Timeouts)
    (url : String) : Bool :=
  match Url.host? url with
  | .ok (some host) =>
    match table (Probe.request timeouts p.settings.proxy? url host) with
    | .status code => !Probe.isWithoutRoute p.settings.proxy? code
    | .failed _ => false
  | _ => false

theorem gives_prober (table : Probe.Request → Probe.Outcome) (timeouts : Probe.Timeouts)
    {url : String} {host : Option String} (hhost : Url.host? url = .ok host) :
    Gives (p.prober timeouts (fun r => pure (table r)) url : Session σ Bool)
      (p.reachableIn table timeouts url) := by
  intro t
  unfold prober Probe.isReachable reachableIn
  rw [hhost, exec_bind_of_ok (exec_ofExcept _ t)]
  cases host with
  | none => exact ⟨_, rfl⟩
  | some host =>
    dsimp only
    rw [exec_bind_of_ok (exec_pure _ t)]
    cases table (Probe.request timeouts p.settings.proxy? url host) with
    | failed reason => exact ⟨_, rfl⟩
    | status code =>
      dsimp only
      cases Probe.isWithoutRoute p.settings.proxy? code <;> exact ⟨_, rfl⟩

/-- Where the services have distinct ids, and addresses that can be read, and nobody but a service
marks the way back, a browser is sent through the same places as `run` goes through. -/
theorem exchange_mirrors_run (hids : (p.workList.map (·.id)).Nodup)
    (hhosts : ∀ e ∈ p.workList, ∃ host, Url.host? e.url = .ok host)
    (hkeycloak : ¬returnMark <:+: p.settings.keycloakUrl.toList)
    (hrealm : ¬returnMark <:+: p.settings.realm.toList)
    (hdomain : isHeaderText (p.settings.cookieDomain.getD "")) (htoken : IsPlainToken idToken)
    (table : Probe.Request → Probe.Outcome) (timeouts : Probe.Timeouts) (t u : Trail σ) :
    ∃ trace answers,
      ((p.run (p.prober timeouts fun r => pure (table r)) now idToken).exec u).1 = .ok trace ∧
      ((p.exchange now idToken (p.prober timeouts fun r => pure (table r))
        (p.workList.length + 1) "").exec t).1 = .ok answers ∧
      Mirrors trace answers := by
  have hgives : ∀ e ∈ p.workList, Gives (p.prober timeouts (fun r => pure (table r)) e.url :
      Session σ Bool) (p.reachableIn table timeouts e.url) := by
    intro e he
    obtain ⟨host, hhost⟩ := hhosts e he
    exact gives_prober p table timeouts hhost
  obtain ⟨hs, hhops⟩ := exists_gives_hops p now idToken hids hgives
  obtain ⟨t', ht⟩ := hhops t
  obtain ⟨u', hu⟩ := hhops u
  refine ⟨Trace.ofHops hs, hs.map p.answerTo, ?_, ?_, mirrors_ofHops p now idToken ht⟩
  · rw [run, exec_bind_of_ok hu, exec_pure]
  · change ((p.exchange now idToken _ _ (queryAfter none)).exec t).1 = _
    rw [exec_exchange _ hdomain htoken hkeycloak hrealm]
    change (((p.hops _ now idToken).exec t).1.map _) = _
    rw [ht]
    rfl

/-- Two services with ids that need escapes, the second of which answers. -/
theorem exchange_mirrors_run_of_pair :
    let p := samplePortal [sampleEntry "?rd=" "https://docs.example.org",
      sampleEntry "wiki & ß" "https://wiki.example.org"]
    let table : Probe.Request → Probe.Outcome := fun r =>
      if r.url = "https://wiki.example.org" then .status 404 else .failed "refused"
    let timeouts : Probe.Timeouts := ⟨.ofRatio false 3 10, .ofRatio false 3 4⟩
    let prober : Prober Unit := p.prober timeouts fun r => pure (table r)
    (p.workList.map (·.id)).Nodup ∧ (∀ e ∈ p.workList, ∃ host, Url.host? e.url = .ok host) ∧
      ¬returnMark <:+: p.settings.keycloakUrl.toList ∧ ¬returnMark <:+: p.settings.realm.toList ∧
      isHeaderText (p.settings.cookieDomain.getD "") ∧ IsPlainToken (some "e30.e30.") ∧
      ∃ trace answers,
        ((p.run prober (.int 0) (some "e30.e30.")).exec ⟨(), []⟩).1 = .ok trace ∧
        ((p.exchange (.int 0) (some "e30.e30.") prober (p.workList.length + 1) "").exec
          ⟨(), []⟩).1 = .ok answers ∧
        Mirrors trace answers := by
  intro p table timeouts prober
  have hids : (p.workList.map (·.id)).Nodup := by decide
  have hhosts : ∀ e ∈ p.workList, ∃ host, Url.host? e.url = .ok host := by
    intro e he
    have hmem : e.url ∈ ["https://docs.example.org", "https://wiki.example.org"] :=
      List.mem_map_of_mem he
    rcases List.mem_cons.1 hmem with h | h
    · exact ⟨_, by rw [h]; rfl⟩
    · exact ⟨_, by rw [List.mem_singleton.1 h]; rfl⟩
  have hkeycloak : ¬returnMark <:+: p.settings.keycloakUrl.toList := by decide
  have hrealm : ¬returnMark <:+: p.settings.realm.toList := by decide
  have hdomain : isHeaderText (p.settings.cookieDomain.getD "") := by decide
  have htoken : IsPlainToken (some "e30.e30.") := by
    rintro _ ⟨⟩
    exact List.all_eq_true.1 (by decide)
  exact ⟨hids, hhosts, hkeycloak, hrealm, hdomain, htoken,
    exchange_mirrors_run p (.int 0) (some "e30.e30.") hids hhosts hkeycloak hrealm hdomain htoken
      table timeouts ⟨(), []⟩ ⟨(), []⟩⟩

/-- Cookies of a domain that does not fit into a header cannot be expired: the first request already
has no answer. -/
theorem no_answer_of_wide_domain :
    let p : Portal := { samplePortal [] with
      settings := { (samplePortal []).settings with cookieDomain := some "日本.example" } }
    let prober : Prober Unit := p.prober ⟨.ofRatio false 3 10, .ofRatio false 3 4⟩ fun _ =>
      pure (.status 200)
    p.workList = [] ∧
      ¬returnMark <:+: p.settings.keycloakUrl.toList ∧ ¬returnMark <:+: p.settings.realm.toList ∧
      IsPlainToken none ∧
      ((p.run prober (.int 0) none).exec ⟨(), []⟩).1.toBool ∧
      ((respond (some (p, prober)) (.int 0) (browserRequest none "")).exec ⟨(), []⟩).1 =
        .error .notHeaderText := by
  intro p prober
  have hdomain : ¬isHeaderText (p.settings.cookieDomain.getD "") := by decide
  obtain ⟨hop, t', hstep⟩ : ∃ hop t', (p.step prober (.int 0) none none).exec ⟨(), []⟩ =
      (.ok hop, t') := ⟨_, _, rfl⟩
  refine ⟨by decide, by decide, by decide, nofun, rfl, ?_⟩
  exact congrArg Prod.fst (exec_respond_of_wide_domain p (.int 0) none hdomain nofun hstep)

end Portal
end StackCompiler
