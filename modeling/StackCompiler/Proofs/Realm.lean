import StackCompiler.Proofs.Data.Reading
import StackCompiler.Proofs.Text.Order
import StackCompiler.Realm.Build

/-!
# The clients of a realm

A realm that was built has the client of the portal and one client for each policy, each with its
own secret (`clientIds_perm`, `client?_of_build`).
-/

namespace StackCompiler

namespace Realm

variable {s : Settings} {d : Deployment} {context : Context} {doc : Document}

/-! ## Secrets of clients -/

/-- Secrets are only found for all policies together. -/
theorem clientSecrets_eq_ok_iff {policies : List Policy} {pairs : List (Policy × String)} :
    clientSecrets context policies = .ok pairs ↔
      (∀ p ∈ policies, (context.clientSecret? p.id).isSome) ∧
        pairs = policies.filterMap fun p => (context.clientSecret? p.id).map (p, ·) := by
  have hmissing : ((policies.filter fun p => (context.clientSecret? p.id).isNone).map (·.id)) = [] ↔
      ∀ p ∈ policies, (context.clientSecret? p.id).isSome := by
    simp [List.filter_eq_nil_iff, Option.ne_none_iff_isSome]
  rw [← hmissing, clientSecrets]
  cases (policies.filter fun p => (context.clientSecret? p.id).isNone).map (·.id) with
  | nil => simp [eq_comm]
  | cons id ids => simp

theorem map_fst_of_clientSecrets : ∀ {policies : List Policy},
    (∀ p ∈ policies, (context.clientSecret? p.id).isSome) →
      (policies.filterMap fun p => (context.clientSecret? p.id).map (p, ·)).map (·.1) = policies
  | [], _ => rfl
  | p :: ps, h => by
    obtain ⟨hp, hps⟩ := List.forall_mem_cons.1 h
    obtain ⟨secret, hsecret⟩ := Option.isSome_iff_exists.1 hp
    rw [List.filterMap_cons, hsecret]
    exact congrArg (p :: ·) (map_fst_of_clientSecrets hps)

/-! ## Accounts -/

/-- A user has an account just where there is a credential under the username. -/
theorem account_eq_ok_iff {u : User} {a : Account} : account s context u = .ok a ↔
    ∃ credential, context.credentials.lookup u.username = some credential ∧ a = {
      username := u.username
      email := u.email
      firstName := u.firstName
      lastName := u.lastName
      credentials := [credential]
      realmRoles := s!"default-roles-{s.realm}" :: u.roles } := by
  rw [account]
  cases context.credentials.lookup u.username with
  | none => simp
  | some credential => simp [eq_comm]

/-! ## Clients of the document -/

/-- What a realm is built of. -/
theorem build_eq_ok_iff : build s d context = .ok doc ↔ context.portalClientSecret ≠ "" ∧
    ∃ pairs users, clientSecrets context d.policies = .ok pairs ∧
      d.users.mapM (account s context) = .ok users ∧ doc = {
        realm := s.realm
        sslRequired := if s.useHttps then "external" else "none"
        roles := roles d d.policies
        clients := clients s context.portalClientSecret pairs
        users } := by
  dsimp only [build]
  by_cases hempty : context.portalClientSecret.isEmpty
  · rw [if_pos hempty]
    have hsecret : context.portalClientSecret = "" := by simpa using hempty
    exact iff_of_false (fun h => by obtain ⟨_, hthrow, -⟩ := bind_eq_ok.1 h; cases hthrow)
      fun h => h.1 hsecret
  · rw [if_neg hempty, and_iff_right (by simpa using hempty)]
    constructor
    · intro h
      obtain ⟨pairs, hpairs, h⟩ := bind_eq_ok.1 h
      obtain ⟨users, husers, h⟩ := bind_eq_ok.1 h
      cases h
      exact ⟨pairs, users, hpairs, husers, rfl⟩
    · rintro ⟨pairs, users, hpairs, husers, rfl⟩
      exact bind_eq_ok.2 ⟨pairs, hpairs, bind_eq_ok.2 ⟨users, husers, rfl⟩⟩

theorem exists_build (hportal : context.portalClientSecret ≠ "")
    (hclients : ∀ p ∈ d.policies, (context.clientSecret? p.id).isSome)
    (husers : ∀ u ∈ d.users, u.username ∈ context.credentials.map (·.1)) :
    ∃ doc, build s d context = .ok doc := by
  obtain ⟨accounts, haccounts⟩ : ∃ accounts, d.users.mapM (account s context) = .ok accounts := by
    refine exists_mapM_eq_ok fun u hu => ?_
    obtain ⟨e, he, heq⟩ := List.mem_map.1 (husers u hu)
    obtain ⟨c, hc⟩ := Option.isSome_iff_exists.1
      (List.lookup_isSome_iff.2 ⟨e, he, beq_iff_eq.2 heq.symm⟩)
    exact ⟨_, account_eq_ok_iff.2 ⟨c, hc, rfl⟩⟩
  have hempty : ¬context.portalClientSecret.isEmpty := by simpa using hportal
  dsimp only [build]
  rw [if_neg hempty]
  exact ⟨_, bind_eq_ok.2 ⟨_, clientSecrets_eq_ok_iff.2 ⟨hclients, rfl⟩,
    bind_eq_ok.2 ⟨accounts, haccounts, rfl⟩⟩⟩

/-- The clients of a realm that was built. -/
theorem clients_of_build (h : build s d context = .ok doc) :
    ∃ pairs, clientSecrets context d.policies = .ok pairs ∧
      doc.clients = clients s context.portalClientSecret pairs := by
  obtain ⟨-, pairs, users, hpairs, -, rfl⟩ := build_eq_ok_iff.1 h
  exact ⟨pairs, hpairs, rfl⟩

theorem clientIds_perm (h : build s d context = .ok doc) :
    (doc.clients.map (·.id)).Perm (portalClientId :: d.guardedIds.map sidecarClientId) := by
  obtain ⟨pairs, hpairs, hclients⟩ := clients_of_build h
  obtain ⟨hsecrets, rfl⟩ := clientSecrets_eq_ok_iff.1 hpairs
  have hpolicies := map_fst_of_clientSecrets hsecrets
  rw [hclients, clients]
  refine (Text.map_sortById_perm _ _ _).trans ?_
  rw [Deployment.guardedIds, List.map_cons, List.map_map, List.map_map]
  conv_rhs => rw [← hpolicies, List.map_map]
  exact .refl _

theorem clientIds_nodup (h : build s d context = .ok doc) (hids : d.guardedIds.Nodup) :
    (doc.clients.map (·.id)).Nodup :=
  (clientIds_perm h).nodup_iff.2
    (nodup_append_map_start (List.nodup_singleton portalClientId) (by decide) hids)

/-- The client of a policy is found under its id, and has the secret that was given for it. -/
theorem client?_of_build (h : build s d context = .ok doc) (hids : d.guardedIds.Nodup) {p : Policy}
    (hp : p ∈ d.policies) :
    ∃ secret, context.clientSecrets.lookup p.id = some secret ∧
      doc.client? (sidecarClientId p.id) = some (sidecarClient s p secret) := by
  obtain ⟨pairs, hpairs, hclients⟩ := clients_of_build h
  obtain ⟨hsecrets, rfl⟩ := clientSecrets_eq_ok_iff.1 hpairs
  obtain ⟨secret, hsecret⟩ := Option.isSome_iff_exists.1 (hsecrets p hp)
  refine ⟨secret, (Option.filter_eq_some_iff.1 hsecret).1, ?_⟩
  have hmem : sidecarClient s p secret ∈ doc.clients := by
    rw [hclients, clients, Text.mem_sortById]
    refine List.mem_cons_of_mem _ (List.mem_map.2 ⟨(p, secret), ?_, rfl⟩)
    exact List.mem_filterMap.2 ⟨p, hp, by rw [hsecret]; rfl⟩
  exact find?_eq_some_of_nodup (clientIds_nodup h hids) hmem

theorem sidecarClientId_ne (id : String) : sidecarClientId id ≠ portalClientId := by
  intro h
  have hstart : ("oauth2-proxy-" ++ id).toList = portalClientId.toList := congrArg String.toList h
  simp [portalClientId] at hstart

/-- The portal's client is found under its id, and has the secret that was given for it. -/
theorem client?_portal (h : build s d context = .ok doc) :
    doc.client? portalClientId = some (portalClient s context.portalClientSecret) := by
  obtain ⟨pairs, -, hclients⟩ := clients_of_build h
  have hmem : ∀ c, c ∈ doc.clients ↔ c = portalClient s context.portalClientSecret ∨
      ∃ pair ∈ pairs, sidecarClient s pair.1 pair.2 = c := by
    intro c
    rw [hclients, clients, Text.mem_sortById, List.mem_cons, List.mem_map]
  have hsome : (doc.client? portalClientId).isSome := by
    rw [Document.client?, List.find?_isSome]
    exact ⟨_, (hmem _).2 (.inl rfl), beq_self_eq_true _⟩
  obtain ⟨c, hc⟩ := Option.isSome_iff_exists.1 hsome
  rcases (hmem c).1 (List.mem_of_find?_eq_some hc) with rfl | ⟨pair, -, rfl⟩
  · exact hc
  · have hid := List.find?_some hc
    exact absurd (eq_of_beq hid) (sidecarClientId_ne pair.1.id)

end Realm
end StackCompiler
