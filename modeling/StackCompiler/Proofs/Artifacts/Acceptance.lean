import StackCompiler.Proofs.Artifacts.Secrecy
import StackCompiler.Proofs.Routing.Backends
import StackCompiler.Proofs.Secrets.Calls

/-!
# What is accepted is generated

Each generator checks its own input. None of these checks fails for a stack file that resolved, with
secrets that the store returned for its services (`StackFile.generators_accept`): hosts are fit for
routes because the declaration is valid, users have credentials because they have passwords, and the
secrets are of the right sizes because they were generated.
-/

namespace StackCompiler

/-! ## Routing -/

theorem StackFile.exists_routingDocument {f : StackFile}
    (h : f.declaration.Valid Catalog.builtIn.ids f.settings.environment) :
    ∃ doc, f.routingDocument (f.declaration.resolve f.settings.environment) = .ok doc := by
  obtain ⟨routes, hroutes, hproblems⟩ := Routing.exists_requests_of_valid f.settings h
  exact ⟨_, bind_eq_ok.2 ⟨routes, hroutes, Routing.generate_eq_ok_iff.2 ⟨hproblems, rfl⟩⟩⟩

/-! ## Users -/

/-- A number of iterations that keys can be derived with. -/
def FitsIterations (n : Int) : Prop := 0 < n ∧ n < (Nat.pow 2 64 : Int)

theorem fitsIterations_default : FitsIterations 27500 := by
  unfold FitsIterations
  decide

theorem Credential.exists_ofPassword (derivation : Derivation)
    (h : FitsIterations derivation.iterations) (password : String) :
    ∃ c, Credential.ofPassword derivation password = .ok c :=
  ⟨_, ofPassword_eq_ok_iff.2 ⟨h, rfl⟩⟩

/-- A user without a violation has a password. -/
theorem UserEntry.password_ne_empty {u : UserEntry} {index : Nat}
    (h : Declaration.passwordViolation? index u = none) : u.password.getD "" ≠ "" := by
  intro heq
  rw [Declaration.passwordViolation?, heq] at h
  cases h

namespace Declaration

variable {d : Declaration}

theorem exists_credentials {hashing : Hashing} (hfits : FitsIterations hashing.iterations)
    (h : d.passwordViolations = []) : ∃ credentials, d.credentials hashing = .ok credentials := by
  refine exists_mapM_eq_ok fun ⟨u, i⟩ hu => ?_
  have hpassword := UserEntry.password_ne_empty (List.filterMap_eq_nil_iff.1 h _ hu)
  obtain ⟨c, hc⟩ := Credential.exists_ofPassword (hashing.derivation i) hfits
    (u.password.getD "")
  have hcredential : u.credential (hashing.derivation i) = .ok c :=
    UserEntry.credential_eq_ok_iff.2 ⟨hpassword, hc⟩
  refine ⟨(u.username, c), ?_⟩
  dsimp only
  rw [hcredential]
  rfl

theorem usernames_of_credentials {hashing : Hashing} {credentials : List (String × Credential)}
    (h : d.credentials hashing = .ok credentials) :
    credentials.map (·.1) = d.users.map (·.username) := by
  have hkeep : credentials.map (·.1) = d.users.zipIdx.map fun e => e.1.username :=
    map_eq_map_of_mapM (fun e c hc => ?_) h
  · change credentials.map (·.1) = _
    conv_rhs => rw [← List.zipIdx_map_fst 0 d.users, List.map_map]
    exact hkeep
  · obtain ⟨e, i⟩ := e
    dsimp only at hc
    cases hcredential : e.credential (hashing.derivation i) with
    | error failure =>
      rw [hcredential] at hc
      cases hc
    | ok c' =>
      rw [hcredential] at hc
      cases hc
      rfl

end Declaration

/-! ## Secrets -/

namespace Secrets

variable {ids services : List String} {secrets : Secrets} {id : String}

theorem Supplied.exists_client (h : secrets.Supplied ids services) (hid : id ∈ services) :
    ∃ value, secrets.clientSecrets.lookup id = some value ∧ IsGenerated value :=
  h.sound.client.exists_lookup (h.client id hid)

theorem Supplied.exists_cookie (h : secrets.Supplied ids services) (hid : id ∈ services) :
    ∃ value, secrets.cookieSecrets.lookup id = some value ∧ IsGenerated value :=
  h.sound.cookie.exists_lookup (h.cookie id hid)

end Secrets

namespace Sidecar

variable {s : Settings} {catalog : Catalog} {d : Deployment} {secrets : Secrets}

theorem exists_build (s : Settings) (p : Policy) (context : Context)
    (hclient : context.clientSecret ≠ "")
    (hcookie : (Utf8.encode context.cookieSecret).length ∈ cookieSecretSizes) :
    ∃ e, build s p context = .ok e := by
  rw [build, if_neg (by simpa using hclient), if_neg (by simpa using hcookie)]
  exact ⟨_, rfl⟩

theorem exists_buildAll (hcatalog : ∀ p ∈ d.policies, p.id ∈ catalog.ids)
    (hclient : ∀ p ∈ d.policies, (secrets.clientSecrets.lookup p.id).getD "" ≠ "")
    (hcookie : ∀ p ∈ d.policies,
      (Utf8.encode ((secrets.cookieSecrets.lookup p.id).getD "")).length ∈ cookieSecretSizes) :
    ∃ es, buildAll s catalog d secrets = .ok es := by
  refine exists_mapM_eq_ok fun p hp => ?_
  obtain ⟨port, hport⟩ := Catalog.exists_port? (hcatalog p hp)
  obtain ⟨e, he⟩ := exists_build s p ⟨_, _, ⟨s.container p.id, port⟩⟩ (hclient p hp) (hcookie p hp)
  exact ⟨e, bind_eq_ok.2 ⟨_, contextOf_eq_ok_iff.2 ⟨port, hport, rfl⟩, he⟩⟩

end Sidecar

/-! ## All documents -/

namespace StackFile

variable {f : StackFile} {d : Deployment} {ids : List String} {secrets : Secrets}

theorem exists_realmDocument {hashing : Hashing} (hfits : FitsIterations hashing.iterations)
    (hresolve : f.resolve = .ok d) (hsecrets : secrets.Supplied ids d.guardedIds) :
    ∃ doc, f.realmDocument hashing secrets d = .ok doc := by
  obtain ⟨-, hpasswords, rfl⟩ := resolve_eq_ok_iff.1 hresolve
  obtain ⟨credentials, hcredentials⟩ := Declaration.exists_credentials hfits hpasswords
  have hclients : ∀ p ∈ (f.declaration.resolve f.settings.environment).policies,
      ((⟨secrets.portalClientSecret, secrets.clientSecrets, credentials⟩ :
        Realm.Context).clientSecret? p.id).isSome := fun p hp => by
    obtain ⟨value, hlookup, hvalue⟩ := hsecrets.exists_client (List.mem_map_of_mem hp)
    rw [Realm.Context.clientSecret?, hlookup, Option.filter_some, hvalue.isEmpty_eq_false]
    rfl
  have husers : ∀ u ∈ (f.declaration.resolve f.settings.environment).users,
      u.username ∈ credentials.map (·.1) := fun u hu => by
    rw [Declaration.usernames_of_credentials hcredentials]
    obtain ⟨entry, hentry, rfl⟩ := List.mem_map.1 hu
    exact List.mem_map_of_mem hentry
  obtain ⟨doc, hdoc⟩ := Realm.exists_build (s := f.settings) hsecrets.portal.ne_empty hclients
    husers
  exact ⟨doc, bind_eq_ok.2 ⟨credentials, hcredentials, hdoc⟩⟩

theorem exists_sidecars (hresolve : f.resolve = .ok d)
    (hsecrets : secrets.Supplied ids d.guardedIds) :
    ∃ es, Sidecar.buildAll f.settings Catalog.builtIn d secrets = .ok es := by
  obtain ⟨hvalid, -, rfl⟩ := resolve_eq_ok_iff.1 hresolve
  refine Sidecar.exists_buildAll (fun p hp => ?_) (fun p hp => ?_) (fun p hp => ?_)
  · obtain ⟨service, hservice, rfl⟩ := List.mem_map.1 (Text.mem_sortById.1 hp)
    exact (hvalid.ids service (List.mem_filter.1 hservice).1).1
  · obtain ⟨value, hlookup, hvalue⟩ := hsecrets.exists_client (List.mem_map_of_mem hp)
    rw [hlookup]
    exact hvalue.ne_empty
  · obtain ⟨value, hlookup, hvalue⟩ := hsecrets.exists_cookie (List.mem_map_of_mem hp)
    rw [hlookup, Option.getD_some, hvalue.length_encode]
    decide

/-- Where a stack file resolves, and its secrets come from a store that was only ever written by
`ensure` and `rotate`, no generator refuses its input. -/
theorem generators_accept {path : Path} {t : Trail Machine} (hresolve : f.resolve = .ok d)
    (hhistory : Secrets.History path ids t.state)
    (hensure : ((Secrets.ensure path d.guardedIds).exec t).1 = .ok secrets)
    (salts : Nat → List UInt8) :
    (∃ doc, f.routingDocument d = .ok doc) ∧
      (∃ doc, f.realmDocument { salts } secrets d = .ok doc) ∧
      ∃ es, Sidecar.buildAll f.settings Catalog.builtIn d secrets = .ok es := by
  have hsupplied := hhistory.supplied_of_ensure hensure
  refine ⟨?_, exists_realmDocument fitsIterations_default hresolve hsupplied,
    exists_sidecars hresolve hsupplied⟩
  obtain ⟨hvalid, -, rfl⟩ := resolve_eq_ok_iff.1 hresolve
  exact exists_routingDocument hvalid

/-- A new store for a stack with a guarded service and a user. -/
theorem generators_accept_account : ∃ (t : Trail Machine) (secrets : Secrets),
    Secrets.History Secrets.samplePath [] t.state ∧
      ((Secrets.ensure Secrets.samplePath Artifacts.accountDeployment.guardedIds).exec t).1 =
        .ok secrets ∧
      (∃ doc, (Artifacts.accountFile "winter").routingDocument Artifacts.accountDeployment =
        .ok doc) ∧
      (∃ doc, (Artifacts.accountFile "winter").realmDocument { salts := fun _ => [] } secrets
        Artifacts.accountDeployment = .ok doc) ∧
      ∃ es, Sidecar.buildAll (Artifacts.accountFile "winter").settings Catalog.builtIn
        Artifacts.accountDeployment secrets = .ok es := by
  have hnone : Tree.contains {} Secrets.samplePath = .ok false := rfl
  have hslugs : ∀ id ∈ Artifacts.accountDeployment.guardedIds, Text.isSlug id := by
    decide +kernel
  have hstores : Secrets.Stores Secrets.samplePath [] {} ⟨{}, fun n => n, 0⟩ :=
    Secrets.stores_start hnone ⟨_, _, rfl, rfl⟩
  obtain ⟨secrets, -, t', hensure, -⟩ := hstores.exec_ensure
    (t := ⟨⟨{}, fun n => n, 0⟩, []⟩) fun id hid => Secrets.keyFits_of_isSlug (hslugs id hid)
  have hhistory : Secrets.History Secrets.samplePath [] ⟨{}, fun n => n, 0⟩ := .start hnone
  have hreturned := congrArg Prod.fst hensure
  exact ⟨_, secrets, hhistory, hreturned, generators_accept
    (Artifacts.resolve_accountFile (.inl rfl)) hhistory hreturned fun _ => []⟩

end StackFile

end StackCompiler
