import StackCompiler.Proofs.Artifacts.Acceptance
import StackCompiler.Proofs.Artifacts.Consistency
import StackCompiler.Proofs.Cascade.Exchange
import StackCompiler.Proofs.Realm
import StackCompiler.Proofs.Sidecar

/-!
# Where a sign-out leads and what allows it

The identity provider and the sidecars turn a redirect down that is not registered with them, and
what is registered is compiled apart from the portal. The portal of a stack keeps to it: it ends a
session as the realm's client of the portal may (`EndsSession`), and signs out of each service
through an address that the sidecar of the service takes (`SignsOut`).
-/

namespace StackCompiler

namespace Portal

open Session

variable {σ : Type} {settings : StackCompiler.Settings} {d : Deployment}

/-! ## Queries -/

/-- The parameters after the last question mark of an address, with the escapes in their values
read. -/
def queryOf (url : String) : List (String × String) :=
  let query := (Text.afterLast? ['?'] url.toList).getD []
  ((Text.pieces '&' query).filterMap Http.splitEquals?).map fun (name, value) =>
    (String.ofList name, String.ofList (Percent.decodeChars value))

/-- An address with two parameters, the values of which are encoded. -/
theorem queryOf_pair (base name value name' value' : String)
    (hname : ∀ c ∈ name.toList, Percent.isUnreserved c)
    (hname' : ∀ c ∈ name'.toList, Percent.isUnreserved c) :
    let url := base ++ "?" ++ (name ++ "=" ++ Percent.encode value) ++ "&" ++
      (name' ++ "=" ++ Percent.encode value')
    Text.beforeLast? ['?'] url.toList = some base.toList ∧
      queryOf url = [(name, value), (name', value')] := by
  intro url
  have hmark : '?' ∉ name.toList ++ '=' :: (Percent.encode value).toList ++ '&' ::
      (name'.toList ++ '=' :: (Percent.encode value').toList) := by
    rw [List.mem_append, List.mem_cons, not_or, not_or]
    exact ⟨Http.not_mem_parameter hname value (by decide) (by decide), by decide,
      Http.not_mem_parameter hname' value' (by decide) (by decide)⟩
  have hurl : url.toList = base.toList ++ ['?'] ++ (name.toList ++ '=' ::
      (Percent.encode value).toList ++ '&' ::
        (name'.toList ++ '=' :: (Percent.encode value').toList)) := by
    simp [url]
  have hquery := Text.afterLast?_append (d := '?') [] (by simp) hmark base.toList
  have hpieces := Text.pieces_append_cons
    (name'.toList ++ '=' :: (Percent.encode value').toList)
    (Http.not_mem_parameter hname value (c := '&') (by decide) (by decide))
  have hlast := Text.pieces_of_not_mem
    (Http.not_mem_parameter hname' value' (c := '&') (by decide) (by decide))
  have hsplit := Http.splitEquals?_append (Percent.encode value).toList
    (Http.not_mem_of_isUnreserved hname (d := '=') (by decide))
  have hsplit' := Http.splitEquals?_append (Percent.encode value').toList
    (Http.not_mem_of_isUnreserved hname' (d := '=') (by decide))
  constructor
  · rw [hurl]
    exact Text.beforeLast?_append_of_not_infix (Text.not_infix_tail (by simp) hmark) _
  · rw [queryOf, hurl, hquery, Option.getD_some, hpieces, hlast]
    simp [hsplit, hsplit', Percent.decodeChars_encode]

/-! ## The end of a session -/

/-- The places in a list that separates them by double hashes. -/
def hashParts : List Char → List (List Char)
  | '#' :: '#' :: cs => [] :: hashParts cs
  | c :: cs =>
    match hashParts cs with
    | [] => [[c]]
    | part :: parts => (c :: part) :: parts
  | [] => [[]]

theorem hashParts_of_not_mem : ∀ {cs : List Char}, '#' ∉ cs → hashParts cs = [cs]
  | [], _ => rfl
  | c :: cs, h => by
    rw [List.mem_cons, not_or] at h
    rw [hashParts, hashParts_of_not_mem h.2]
    rintro _ rfl
    exact absurd rfl h.1

theorem hashParts_append {after : List Char} : ∀ {before : List Char}, '#' ∉ before →
    hashParts (before ++ '#' :: '#' :: after) = before :: hashParts after
  | [], _ => rfl
  | c :: before, h => by
    rw [List.mem_cons, not_or] at h
    rw [List.cons_append, hashParts, hashParts_append h.2]
    rintro _ rfl
    exact absurd rfl h.1

/-- Where the client may lead back to after a sign-out. -/
def logoutTargets (client : Realm.Client) : List String :=
  (hashParts ((client.attributes.lookup "post.logout.redirect.uris").getD "").toList).map
    String.ofList

/-- By what the identity provider knows a session: by its token if that is usable, and else by the
client. -/
def sessionHint (client : Realm.Client) (now : Number) (idToken : Option String) :
    String × String :=
  match idToken.filter fun token => Token.isUsable now (some token) with
  | some token => ("id_token_hint", token)
  | none => ("client_id", client.id)

/-- The address ends the session at an identity provider as a client of it may. -/
structure EndsSession (provider : Descriptor.IdentityProvider) (client : Realm.Client)
    (now : Number) (idToken : Option String) (url : String) : Prop where
  endpoint : Text.beforeLast? ['?'] url.toList =
    some (provider.issuerUrl ++ "/protocol/openid-connect/logout").toList
  query : ∃ target ∈ logoutTargets client,
    queryOf url = [sessionHint client now idToken, ("post_logout_redirect_uri", target)]

theorem not_mem_scheme {c : Char} (h : c ∉ "https".toList) : c ∉ settings.scheme.toList := by
  rcases settings.scheme_eq with hscheme | hscheme
  · rw [hscheme]
    exact fun hc => h (List.Sublist.mem hc (by decide))
  · rw [hscheme]
    exact h

theorem not_mem_portalUrl (hdomain : '#' ∉ settings.baseDomain.toList) :
    '#' ∉ settings.portalUrl.toList := by
  have hscheme : '#' ∉ settings.scheme.toList := not_mem_scheme (by decide)
  rw [StackCompiler.Settings.portalUrl, StackCompiler.Settings.toList_url]
  simp [hscheme, hdomain, portalHost]

theorem logoutTargets_portalClient (hdomain : '#' ∉ settings.baseDomain.toList) (secret : String) :
    logoutTargets (Realm.portalClient settings secret) =
      [settings.portalUrl ++ "/auth/logout/complete", settings.portalUrl ++ "/auth/logout/"] := by
  have hportal := not_mem_portalUrl hdomain
  have hcomplete : '#' ∉ (settings.portalUrl ++ "/auth/logout/complete").toList := by
    simp [hportal]
  have hstart : '#' ∉ (settings.portalUrl ++ "/auth/logout/").toList := by
    simp [hportal]
  have hredirects : ((Realm.portalClient settings secret).attributes.lookup
      "post.logout.redirect.uris").getD "" =
        settings.portalUrl ++ "/auth/logout/complete##" ++ settings.portalUrl ++ "/auth/logout/" :=
    rfl
  have hlist : (settings.portalUrl ++ "/auth/logout/complete##" ++ settings.portalUrl ++
      "/auth/logout/").toList = (settings.portalUrl ++ "/auth/logout/complete").toList ++
        '#' :: '#' :: (settings.portalUrl ++ "/auth/logout/").toList := by
    simp
  rw [logoutTargets, hredirects, hlist, hashParts_append hcomplete, hashParts_of_not_mem hstart]
  simp

theorem isUnreserved_sessionHint (client : Realm.Client) (now : Number) (idToken : Option String) :
    ∀ c ∈ (sessionHint client now idToken).1.toList, Percent.isUnreserved c := by
  apply List.all_eq_true.1
  unfold sessionHint
  split
  · show "id_token_hint".toList.all Percent.isUnreserved
    decide
  · show "client_id".toList.all Percent.isUnreserved
    decide

variable {p : Portal}

theorem sessionParameter_eq {client : Realm.Client} (hclient : p.settings.clientId = client.id)
    (now : Number) (idToken : Option String) :
    p.sessionParameter (Token.verdict now idToken) idToken =
      (sessionHint client now idToken).1 ++ "=" ++
        Percent.encode (sessionHint client now idToken).2 := by
  cases idToken with
  | none =>
    have hverdict : Token.verdict now none ≠ .usable := by
      rw [Token.verdict]
      decide
    rw [sessionParameter, if_neg hverdict, hclient]
    rfl
  | some token =>
    by_cases husable : Token.verdict now (some token) = .usable
    · have hkept : (some token).filter (fun token => Token.isUsable now (some token)) =
          some token := by
        simp [Token.isUsable, husable]
      rw [sessionParameter, if_pos husable, sessionHint, hkept]
      rfl
    · have hdropped : (some token).filter (fun token => Token.isUsable now (some token)) =
          none := by
        simp [Token.isUsable, husable]
      rw [sessionParameter, if_neg husable, sessionHint, hdropped, hclient]
      rfl

theorem endSessionUrlFor_eq (hp : p.settings = .ofStack settings) (secret : String)
    (now : Number) (idToken : Option String) :
    p.endSessionUrlFor (Token.verdict now idToken) idToken =
      settings.issuerUrl ++ "/protocol/openid-connect/logout" ++ "?" ++
        ((sessionHint (Realm.portalClient settings secret) now idToken).1 ++ "=" ++
          Percent.encode (sessionHint (Realm.portalClient settings secret) now idToken).2) ++ "&" ++
        ("post_logout_redirect_uri" ++ "=" ++
          Percent.encode (settings.portalUrl ++ "/auth/logout/complete")) := by
  have hclient : p.settings.clientId = (Realm.portalClient settings secret).id := by
    rw [hp]
    rfl
  have hcomplete : p.completeUrl = settings.portalUrl ++ "/auth/logout/complete" := by
    rw [completeUrl, hp]
    rfl
  have hissuer : p.settings.keycloakUrl ++ "/realms/" ++ p.settings.realm = settings.issuerUrl := by
    rw [hp]
    rfl
  rw [endSessionUrlFor, sessionParameter_eq hclient, hcomplete, hissuer]
  simp [← String.toList_inj]

/-- Where the portal of a stack ends a session. -/
theorem endsSession_portalClient (hdomain : '#' ∉ settings.baseDomain.toList)
    (hp : p.settings = .ofStack settings) (secret : String) (now : Number)
    (idToken : Option String) :
    EndsSession ⟨settings.keycloakUrl, settings.issuerUrl, settings.realm⟩
      (Realm.portalClient settings secret) now idToken
      (p.endSessionUrlFor (Token.verdict now idToken) idToken) := by
  obtain ⟨hendpoint, hquery⟩ := queryOf_pair
    (settings.issuerUrl ++ "/protocol/openid-connect/logout")
    (sessionHint (Realm.portalClient settings secret) now idToken).1
    (sessionHint (Realm.portalClient settings secret) now idToken).2 "post_logout_redirect_uri"
    (settings.portalUrl ++ "/auth/logout/complete") (isUnreserved_sessionHint _ now idToken)
    (List.all_eq_true.1 (by decide))
  rw [endSessionUrlFor_eq hp secret]
  refine ⟨hendpoint, _, ?_, hquery⟩
  rw [logoutTargets_portalClient hdomain]
  exact List.mem_cons_self ..

/-! ## Sign-out at a service -/

/-- What stands between the scheme and the host of an address. -/
def hostMark : List Char := ':' :: "//".toList

/-- What stands between the host of the portal and the id of the service that leads back to it. -/
def returnPath : List Char := '/' :: "auth/logout?serviceId=".toList

/-- The host that an address leads back to. -/
def returnHost? (url : String) : Option (List Char) :=
  (Text.afterFirst? hostMark url.toList).bind (Text.beforeLast? returnPath)

/-- The address of a service's sign-out belongs to a sidecar, which may lead back to the portal. -/
structure SignsOut (p : Portal) (e : Descriptor.Entry) (sidecar : SidecarEnvironment) : Prop where
  id : sidecar.id = e.id
  start : ∃ base, sidecar.get? "REDIRECT_URL" = some (base ++ "/oauth2/callback") ∧
    base.toList <+: (p.signOutUrl e).toList
  target : (Text.afterLast? returnMark (p.signOutUrl e).toList).map Percent.decodeChars =
    some (p.continueUrl e.id).toList
  host : ∃ host domain, returnHost? (p.continueUrl e.id) = some host ∧
    sidecar.get? "WHITELIST_DOMAINS" = some domain ∧ domain.toList <:+ host

theorem afterLast?_signOutUrl (p : Portal) (e : Descriptor.Entry) :
    Text.afterLast? returnMark (p.signOutUrl e).toList =
      some (Percent.encode (p.continueUrl e.id)).toList := by
  have hurl : (p.signOutUrl e).toList = (e.url ++ "/oauth2/sign_out").toList ++ returnMark ++
      (Percent.encode (p.continueUrl e.id)).toList := by
    simp [signOutUrl, returnMark]
  rw [hurl, returnMark]
  exact Text.afterLast?_append _ (by decide) (Percent.not_mem_encode (by decide) (by decide)) _

theorem returnHost?_continueUrl (hp : p.settings = .ofStack settings) (id : String) :
    returnHost? (p.continueUrl id) = some ("portal.".toList ++ settings.baseDomain.toList) := by
  have hunmarked : '?' ∉ "serviceId=".toList ++ (Percent.encode id).toList := by
    rw [List.mem_append, not_or]
    exact ⟨by decide, Percent.not_mem_encode (by decide) (by decide)⟩
  have honce : ¬"/auth/logout".toList ++ '?' :: "serviceId=".toList <:+:
      "auth/logout".toList ++ '?' :: ("serviceId=".toList ++ (Percent.encode id).toList) :=
    Text.not_infix_of_length_lt (by decide) hunmarked (by decide)
  have hportal : p.settings.portalUrl = settings.url portalHost := by
    rw [hp]
    rfl
  have hurl : (p.continueUrl id).toList = settings.scheme.toList ++ hostMark ++
      ("portal.".toList ++ settings.baseDomain.toList ++ returnPath ++
        (Percent.encode id).toList) := by
    rw [continueUrl, hportal, String.toList_append, String.toList_append,
      StackCompiler.Settings.toList_url]
    simp [portalHost, hostMark, returnPath]
  rw [returnHost?, hurl, hostMark, Text.afterFirst?_append _ _ (not_mem_scheme (by decide)),
    Option.bind_some]
  exact Text.beforeLast?_append_of_not_infix honce _

/-- Where the portal of a stack signs out of a service. -/
theorem signsOut_entryOf (hp : p.settings = .ofStack settings) (s : Service)
    (context : Sidecar.Context) :
    p.SignsOut (Descriptor.entryOf settings s)
      (Sidecar.environmentOf settings (.ofService s) context) := by
  constructor
  case id => rfl
  case start =>
    refine ⟨settings.urlOf (some s.host), Sidecar.get?_environmentOf (by decide +kernel), ?_⟩
    exact ⟨("/oauth2/sign_out?rd=" ++ Percent.encode (p.continueUrl s.id)).toList, by
      simp [signOutUrl, Descriptor.entryOf]⟩
  case target =>
    rw [afterLast?_signOutUrl, Option.map_some, Percent.decodeChars_encode]
  case host =>
    have hdomain : Sidecar.allowedDomains settings = "." ++ settings.baseDomain := rfl
    refine ⟨_, _, returnHost?_continueUrl hp _, Sidecar.get?_environmentOf (by decide +kernel), ?_⟩
    exact ⟨"portal".toList, by simp [hdomain]⟩

/-! ## The portal of a stack -/

/-- The portal of a stack ends sessions as its client in the realm may, and signs out of each service
with a sidecar through it. -/
theorem signOut_allowed (hdomain : '#' ∉ settings.baseDomain.toList)
    (hsettings : Portal.Settings.ofStackWith settings [] = .ok p.settings)
    (hdescriptor : Descriptor.generate settings d = .ok p.descriptor) (now : Number)
    (idToken : Option String) :
    (∀ context realm, Realm.build settings d context = .ok realm →
      ∃ client, realm.client? portalClientId = some client ∧ ∀ t : Trail σ, ∃ url t',
        (p.endSessionUrl now idToken).exec t = (.ok url, t') ∧
          EndsSession p.descriptor.identityProvider client now idToken url) ∧
    (∀ e ∈ p.workList, ∃ s ∈ d.services, s.hasSidecar ∧ e = Descriptor.entryOf settings s) ∧
    ∀ s ∈ d.services, s.hasSidecar →
      Descriptor.entryOf settings s ∈ p.workList ∧ Policy.ofService s ∈ d.policies ∧
        ∀ context sidecar, Sidecar.build settings (.ofService s) context = .ok sidecar →
          p.SignsOut (Descriptor.entryOf settings s) sidecar := by
  have hp : p.settings = .ofStack settings := (Except.ok.inj hsettings).symm
  have hprovider : p.descriptor.identityProvider =
      ⟨settings.keycloakUrl, settings.issuerUrl, settings.realm⟩ := by
    obtain ⟨entries, -, hdraft, -⟩ := Descriptor.generate_eq_ok_iff.1 hdescriptor
    rw [hdraft]
    rfl
  have hlisted : ∀ e, e ∈ p.workList ↔
      ∃ s ∈ d.services, s.hasSidecar ∧ e = Descriptor.entryOf settings s := by
    intro e
    have hperm := Descriptor.services_perm_of_generate hdescriptor
    rw [workList, Descriptor.workList, List.mem_filter, hperm.mem_iff, List.mem_map]
    constructor
    · rintro ⟨⟨s, hs, rfl⟩, hsidecar⟩
      exact ⟨s, hs, hsidecar, rfl⟩
    · rintro ⟨s, hs, hsidecar, rfl⟩
      exact ⟨⟨s, hs, rfl⟩, hsidecar⟩
  refine ⟨fun context realm hrealm => ?_, fun e he => (hlisted e).1 he, fun s hs hsidecar => ?_⟩
  · refine ⟨_, Realm.client?_portal hrealm, fun t => ?_⟩
    obtain ⟨log, hurl⟩ := exec_endSessionUrl p now idToken t
    refine ⟨_, _, hurl, ?_⟩
    rw [hprovider]
    exact endsSession_portalClient hdomain hp _ now idToken
  · refine ⟨(hlisted _).2 ⟨s, hs, hsidecar, rfl⟩, Deployment.ofService_mem_policies hs hsidecar, ?_⟩
    intro context sidecar hbuild
    rw [Sidecar.build_eq_ok hbuild]
    exact signsOut_entryOf hp s context

/-- A user signs out of a guarded service through its sidecar, and ends the session as a client. -/
theorem signOut_allowed_guarded :
    '#' ∉ Artifacts.guardedFile.settings.baseDomain.toList ∧ ∃ p : Portal,
      Portal.Settings.ofStackWith Artifacts.guardedFile.settings [] = .ok p.settings ∧
      Descriptor.generate Artifacts.guardedFile.settings Artifacts.guardedDeployment =
        .ok p.descriptor ∧
      ∀ s ∈ Artifacts.guardedDeployment.services,
        ∃ sidecar, Sidecar.build Artifacts.guardedFile.settings (.ofService s)
            ⟨"client-secret", "0123456789abcdef", ⟨"demo-stackgen-demo", 8080⟩⟩ = .ok sidecar ∧
          p.SignsOut (Descriptor.entryOf Artifacts.guardedFile.settings s) sidecar := by
  have hdomain : '#' ∉ Artifacts.guardedFile.settings.baseDomain.toList := by decide
  obtain ⟨a, ha⟩ := Artifacts.exec_compile_guardedFile
  obtain ⟨docs, hmake⟩ := Artifacts.exec_compile_eq_ok_iff.1 ha
  have hdeployment : docs.deployment = Artifacts.guardedDeployment :=
    Except.ok.inj (hmake.deployment.symm.trans Artifacts.resolve_guardedFile)
  have hdescriptor := hdeployment ▸ hmake.descriptor
  obtain ⟨-, -, hservices⟩ := signOut_allowed (σ := Unit)
    (p := ⟨.ofStack Artifacts.guardedFile.settings, docs.descriptor⟩) hdomain rfl hdescriptor
    (.int 0) none
  refine ⟨hdomain, ⟨.ofStack Artifacts.guardedFile.settings, docs.descriptor⟩, rfl, hdescriptor,
    fun s hs => ?_⟩
  cases List.mem_singleton.1 hs
  obtain ⟨sidecar, hbuild⟩ := Sidecar.exists_build Artifacts.guardedFile.settings
    (.ofService ⟨"demo", "Demo", "demo", .proxy, ["dev"], none, none, none⟩)
    ⟨"client-secret", "0123456789abcdef", ⟨"demo-stackgen-demo", 8080⟩⟩ (by decide)
    (by decide +kernel)
  exact ⟨sidecar, hbuild, (hservices _ hs rfl).2.2 _ _ hbuild⟩

end Portal
end StackCompiler
