import StackCompiler.Proofs.Artifacts.Secrecy
import StackCompiler.Proofs.Secrets.Calls

/-!
# Compiling a stack file again

Compiling a stack file with the same secrets succeeds where it did before, whatever the order of the
secrets and whatever the salts. The documents are the same but for the keys of users, which depend
on the salts (`Documents.Make.again`).
-/

namespace StackCompiler

variable {f : StackFile} {hashing hashing' : Hashing} {secrets secrets' : Secrets}

/-! ## Credentials -/

theorem UserEntry.credential_again {u : UserEntry} {derivation derivation' : Credential.Derivation}
    {c : Credential} (h : u.credential derivation = .ok c)
    (hiterations : derivation'.iterations = derivation.iterations) :
    ∃ c', u.credential derivation' = .ok c' := by
  obtain ⟨hne, hpassword⟩ := credential_eq_ok_iff.1 h
  obtain ⟨hfits, -⟩ := Credential.ofPassword_eq_ok_iff.1 hpassword
  rw [← hiterations] at hfits
  exact ⟨_, credential_eq_ok_iff.2 ⟨hne, Credential.ofPassword_eq_ok_iff.2 ⟨hfits, rfl⟩⟩⟩

/-- Users have credentials with any salts, of which only the keys differ. -/
theorem Declaration.credentials_again {d : Declaration} {credentials : List (String × Credential)}
    (h : d.credentials hashing = .ok credentials)
    (hiterations : hashing'.iterations = hashing.iterations) :
    ∃ credentials', d.credentials hashing' = .ok credentials' ∧
      credentials'.map (fun e => (e.1, e.2.withoutKey)) =
        credentials.map fun e => (e.1, e.2.withoutKey) := by
  obtain ⟨credentials', hcredentials'⟩ : ∃ credentials', d.credentials hashing' =
      .ok credentials' := by
    refine exists_mapM_eq_ok fun ⟨u, i⟩ he => ?_
    obtain ⟨entry, -, hentry⟩ := exists_mem_of_mapM_eq_ok h (u, i) he
    dsimp only at hentry ⊢
    cases hc : u.credential (hashing.derivation i) with
    | error failure =>
      rw [hc] at hentry
      cases hentry
    | ok c =>
      have hsame : (hashing'.derivation i).iterations = (hashing.derivation i).iterations :=
        hiterations
      obtain ⟨c', hc'⟩ := UserEntry.credential_again hc hsame
      exact ⟨(u.username, c'), by rw [hc']; rfl⟩
  refine ⟨credentials', hcredentials', ?_⟩
  have hderivation : ∀ i,
      (hashing'.derivation i).credential = (hashing.derivation i).credential := by
    intro i
    unfold Credential.Derivation.credential Credential.derivationJson Hashing.derivation
    rw [hiterations]
  rw [withoutKeys_of_credentials h, withoutKeys_of_credentials hcredentials']
  simp only [hderivation]

/-! ## Realms and sidecars -/

namespace Realm

variable {s : Settings} {d : Deployment} {context context' : Context} {doc : Document}

/-- A realm depends on the secrets by the ids under which they are found. -/
theorem build_congr (hportal : context'.portalClientSecret = context.portalClientSecret)
    (hclients : ∀ id, context'.clientSecrets.lookup id = context.clientSecrets.lookup id)
    (hcredentials : context'.credentials = context.credentials) :
    build s d context' = build s d context := by
  have hsecret : context'.clientSecret? = context.clientSecret? := by
    funext id
    rw [Context.clientSecret?, hclients, Context.clientSecret?]
  have haccount : account s context' = account s context := by
    funext u
    rw [account, hcredentials, account]
  unfold build clientSecrets
  rw [hportal, hsecret, haccount]

/-- With other keys a realm is built that differs in them alone. -/
theorem exists_build_of_withoutKeys (h : build s d context = .ok doc)
    (hportal : context'.portalClientSecret = context.portalClientSecret)
    (hclients : ∀ id, context'.clientSecrets.lookup id = context.clientSecrets.lookup id)
    (hkeys : context'.withoutKeys.credentials = context.withoutKeys.credentials) :
    ∃ doc', build s d context' = .ok doc' ∧ doc'.withoutKeys = doc.withoutKeys := by
  obtain ⟨hfilled, pairs, users, hpairs, husers, -⟩ := build_eq_ok_iff.1 h
  obtain ⟨hsecrets, -⟩ := clientSecrets_eq_ok_iff.1 hpairs
  have hnames : context'.credentials.map (·.1) = context.credentials.map (·.1) := by
    have hfirst := congrArg (List.map (·.1)) hkeys
    rw [Context.withoutKeys, Context.withoutKeys, List.map_map, List.map_map] at hfirst
    exact hfirst
  obtain ⟨doc', hdoc'⟩ : ∃ doc', build s d context' = .ok doc' := by
    refine exists_build (hportal ▸ hfilled) (fun p hp => ?_) fun u hu => ?_
    · rw [Context.clientSecret?, hclients]
      exact hsecrets p hp
    · obtain ⟨a, -, ha⟩ := exists_mem_of_mapM_eq_ok husers u hu
      obtain ⟨c, hlookup, -⟩ := account_eq_ok_iff.1 ha
      rw [hnames]
      exact List.mem_map.2 ⟨_, mem_of_lookup_eq_some hlookup, rfl⟩
  refine ⟨doc', hdoc', ?_⟩
  have hsame : build s d context'.withoutKeys = build s d context.withoutKeys :=
    build_congr hportal hclients hkeys
  rw [withoutKeys_of_build hdoc', withoutKeys_of_build h] at hsame
  exact Except.ok.inj hsame

end Realm

/-- Sidecars depend on the secrets by the ids under which they are found. -/
theorem Sidecar.buildAll_congr {s : Settings} {catalog : Catalog} {d : Deployment}
    (hsame : secrets'.Same secrets) :
    buildAll s catalog d secrets' = buildAll s catalog d secrets := by
  have hcontext : contextOf s catalog secrets' = contextOf s catalog secrets := by
    funext p
    rw [contextOf, hsame.client, hsame.cookie, contextOf]
  unfold buildAll
  rw [hcontext]

namespace Documents

variable {docs : Documents} {a : Artifacts}

/-- The realm is built again with any salts. -/
theorem Make.exists_realm (h : docs.Make hashing f secrets a) (hsame : secrets'.Same secrets)
    (hiterations : hashing'.iterations = hashing.iterations) :
    ∃ realm, f.realmDocument hashing' secrets' docs.deployment = .ok realm ∧
      realm.withoutKeys = docs.realm.withoutKeys := by
  obtain ⟨credentials, hcredentials, hbuild⟩ := h.exists_context
  obtain ⟨credentials', hcredentials', hkeys⟩ :=
    Declaration.credentials_again hcredentials hiterations
  have hcontext : Realm.Context.credentials (Realm.Context.withoutKeys
      ⟨secrets'.portalClientSecret, secrets'.clientSecrets, credentials'⟩) =
      Realm.Context.credentials (Realm.Context.withoutKeys
        ⟨secrets.portalClientSecret, secrets.clientSecrets, credentials⟩) := hkeys
  obtain ⟨realm, hrealm, hsameKeys⟩ :=
    Realm.exists_build_of_withoutKeys hbuild hsame.portal hsame.client hcontext
  exact ⟨realm, bind_eq_ok.2 ⟨credentials', hcredentials', hrealm⟩, hsameKeys⟩

/-- The same documents result, but for the keys of users, and so do the same texts. -/
theorem Make.again (h : docs.Make hashing f secrets a) (hsame : secrets'.Same secrets)
    (hiterations : hashing'.iterations = hashing.iterations) :
    ∃ realm : Realm.Document, realm.withoutKeys = docs.realm.withoutKeys ∧
      Make { docs with realm } hashing' f secrets' { a with realm := realm.text } := by
  obtain ⟨realm, hrealm, hkeys⟩ := h.exists_realm hsame hiterations
  refine ⟨realm, hkeys, ⟨h.deployment, h.routing, hrealm, ?_, h.descriptor, h.inline,
    h.routing_text, rfl, h.sidecar_texts, h.descriptor_text⟩⟩
  rw [Sidecar.buildAll_congr hsame]
  exact h.sidecars

end Documents

end StackCompiler
