import StackCompiler.Proofs.Realm.WellFormed

/-!
# The addresses of a realm's users

A realm lets its users sign in by their e-mail addresses and allows no address twice. The address of
a user is declared, or else made of the username. Usernames are distinct, declared addresses need not
be: the addresses in the realm of a stack file that resolved are distinct just where the declaration
`HasOwnEmails` (`Realm.emails_distinct_iff`).
-/

namespace StackCompiler

/-! ## Values with a default -/

section Defaults

variable {α β : Type} {given : α → Option β} {other : α → β} {b : β}

theorem mem_map_getD {xs : List α} : b ∈ xs.map (fun x => (given x).getD (other x)) ↔
    b ∈ xs.filterMap given ∨ ∃ x ∈ xs, given x = none ∧ other x = b := by
  rw [List.mem_map, List.mem_filterMap]
  constructor
  · rintro ⟨x, hx, rfl⟩
    cases hgiven : given x with
    | some value => exact .inl ⟨x, hx, hgiven⟩
    | none => exact .inr ⟨x, hx, hgiven, rfl⟩
  · rintro (⟨x, hx, hgiven⟩ | ⟨x, hx, hgiven, rfl⟩)
    · exact ⟨x, hx, by rw [hgiven, Option.getD_some]⟩
    · exact ⟨x, hx, by rw [hgiven, Option.getD_none]⟩

/-- Where the defaults are distinct, values are distinct just where those that are given are, and
none of them is a default that is used. -/
theorem nodup_map_getD_iff : ∀ {xs : List α}, (xs.map other).Nodup →
    ((xs.map fun x => (given x).getD (other x)).Nodup ↔
      (xs.filterMap given).Nodup ∧ ∀ x ∈ xs, given x = none → other x ∉ xs.filterMap given)
  | [], _ => by simp
  | x :: xs, hother => by
    obtain ⟨hx, hxs⟩ := List.nodup_cons.1 hother
    rw [List.map_cons, List.nodup_cons, mem_map_getD, nodup_map_getD_iff hxs, List.forall_mem_cons]
    cases hgiven : given x with
    | some value =>
      rw [List.filterMap_cons_some hgiven, Option.getD_some, List.nodup_cons]
      constructor
      · rintro ⟨hnew, hnodup, hfree⟩
        rw [not_or] at hnew
        refine ⟨⟨hnew.1, hnodup⟩, (fun hnone => by cases hnone), fun y hy hnone hmem => ?_⟩
        rcases List.mem_cons.1 hmem with heq | hmem
        · exact hnew.2 ⟨y, hy, hnone, heq⟩
        · exact hfree y hy hnone hmem
      · rintro ⟨⟨hnew, hnodup⟩, -, hfree⟩
        refine ⟨?_, hnodup, fun y hy hnone hmem => ?_⟩
        · rintro (hmem | ⟨y, hy, hnone, rfl⟩)
          · exact hnew hmem
          · exact hfree y hy hnone List.mem_cons_self
        · exact hfree y hy hnone (List.mem_cons_of_mem _ hmem)
    | none =>
      rw [List.filterMap_cons_none hgiven, Option.getD_none]
      constructor
      · rintro ⟨hnew, hnodup, hfree⟩
        exact ⟨hnodup, fun _ hmem => hnew (.inl hmem), hfree⟩
      · rintro ⟨hnodup, hown, hfree⟩
        refine ⟨?_, hnodup, hfree⟩
        rintro (hmem | ⟨y, hy, -, heq⟩)
        · exact hown rfl hmem
        · exact hx (heq ▸ List.mem_map_of_mem hy)

end Defaults

/-! ## Addresses of users -/

namespace UserEntry

/-- The address that a user declares; an empty one does not count. -/
def ownEmail? (u : UserEntry) : Option String := u.email.filter (!·.isEmpty)

/-- The address of a user who declares none. -/
def defaultEmail (environment : String) (u : UserEntry) : String :=
  s!"{u.username}@{environment}.local"

theorem email_resolve (environment : String) (u : UserEntry) :
    (u.resolve environment).email = u.ownEmail?.getD (u.defaultEmail environment) := by
  change orElseText u.email (u.defaultEmail environment) = _
  unfold orElseText ownEmail?
  cases u.email with
  | none => rfl
  | some s => by_cases h : s.isEmpty <;> simp [Option.filter, h]

theorem defaultEmail_injective {environment : String} {u u' : UserEntry}
    (h : u.defaultEmail environment = u'.defaultEmail environment) : u.username = u'.username := by
  have hends : ∀ v : UserEntry, v.defaultEmail environment =
      v.username ++ ("@" ++ environment ++ ".local") := fun v => by
    simp only [defaultEmail, toString, String.append_assoc]
  rw [hends, hends] at h
  exact (String.append_left_inj _).1 h

end UserEntry

namespace Declaration

/-- The addresses that users declare. -/
def ownEmails (d : Declaration) : List String := d.users.filterMap (·.ownEmail?)

/-- No address is declared twice, or declared by one user while another one has it by default. -/
structure HasOwnEmails (environment : String) (d : Declaration) : Prop where
  declared_once : d.ownEmails.Nodup
  defaults_free : ∀ u ∈ d.users, u.ownEmail? = none → u.defaultEmail environment ∉ d.ownEmails

theorem emails_nodup_iff {environment : String} {d : Declaration}
    (hnames : (d.users.map (·.username)).Nodup) :
    ((d.resolve environment).users.map (·.email)).Nodup ↔ d.HasOwnEmails environment := by
  have hemails : (d.resolve environment).users.map (·.email) =
      d.users.map fun u => u.ownEmail?.getD (u.defaultEmail environment) := by
    change (d.users.map (·.resolve environment)).map (·.email) = _
    rw [List.map_map]
    exact List.map_congr_left fun u _ => u.email_resolve environment
  have hdefaults : (d.users.map (·.defaultEmail environment)).Nodup :=
    List.pairwise_map.2 ((List.pairwise_map.1 hnames).imp fun hne heq =>
      hne (UserEntry.defaultEmail_injective heq))
  rw [hemails, nodup_map_getD_iff hdefaults]
  exact ⟨fun ⟨honce, hfree⟩ => ⟨honce, hfree⟩, fun ⟨honce, hfree⟩ => ⟨honce, hfree⟩⟩

end Declaration

/-! ## Realms -/

namespace Realm

theorem emails_of_build {s : Settings} {d : Deployment} {context : Context} {doc : Document}
    (h : build s d context = .ok doc) : doc.users.map (·.email) = d.users.map (·.email) := by
  obtain ⟨-, pairs, users, -, husers, rfl⟩ := build_eq_ok_iff.1 h
  refine map_eq_map_of_mapM (fun u a ha => ?_) husers
  obtain ⟨credential, -, rfl⟩ := account_eq_ok_iff.1 ha
  rfl

/-- The users of the realm of a stack file that resolved have distinct addresses just where no
address is declared twice, or declared by one user while another one has it by default. -/
theorem emails_distinct_iff {source : String} {data : Data} {f : StackFile} {d : Deployment}
    {s : Settings} {context : Context} {doc : Document} (hf : StackFile.ofData source data = .ok f)
    (hresolve : f.resolve = .ok d) (h : build s d context = .ok doc) :
    (doc.users.map (·.email)).Nodup ↔ f.declaration.HasOwnEmails f.settings.environment := by
  obtain ⟨-, -, rfl⟩ := StackFile.resolve_eq_ok_iff.1 hresolve
  rw [emails_of_build h]
  exact Declaration.emails_nodup_iff
    (StackFile.wellFormed_of_ofData hf).declaration.usernames_nodup

/-! ## Two users -/

/-- A stack with two users, the first of whom declares an address, as it is read. -/
def teamData (email : String) : Data := .record [
  ("stack", .record [
    ("deploymentId", .str "demo"), ("environment", .str "local"), ("keycloakRealm", .str "main")]),
  ("users", .list [
    .record [("username", .str "ann"), ("password", .str "winter"), ("email", .str email),
      ("roles", .strs ["dev"])],
    .record [("username", .str "bob"), ("password", .str "summer"), ("roles", .strs ["dev"])]])]

def teamFile (email : String) : StackFile where
  settings := { deploymentId := "demo", environment := "local", realm := "main" }
  declaration := { users := [
    { username := "ann", password := some "winter", email := some email, roles := ["dev"] },
    { username := "bob", password := some "summer", roles := ["dev"] }] }

def teamDeployment (email : String) : Deployment where
  environment := "local"
  roles := ["dev"]
  users := [
    { username := "ann", email, firstName := "Ann", lastName := "User", roles := ["dev"] },
    { username := "bob", email := "bob@local.local", firstName := "Bob", lastName := "User"
      roles := ["dev"] }]

def teamContext : Context where
  portalClientSecret := "portal-secret"
  credentials := [("ann", { secretData := "", credentialData := "" }),
    ("bob", { secretData := "", credentialData := "" })]

theorem resolve_teamFile {email : String} (h : email ∈ ["ann@example.org", "bob@local.local"]) :
    (teamFile email).resolve = .ok (teamDeployment email) := by
  simp only [List.mem_cons, List.not_mem_nil, or_false] at h
  rcases h with rfl | rfl <;>
    exact StackFile.resolve_of_known (by decide +kernel) (by decide +kernel) (by decide +kernel)

theorem exists_build_team (email : String) :
    ∃ doc, build (teamFile email).settings (teamDeployment email) teamContext = .ok doc := by
  refine exists_build (by decide) (fun p hp => ?_) (by simp [teamDeployment, teamContext])
  exact absurd (Text.mem_sortById.1 hp) List.not_mem_nil

theorem ofData_teamData : StackFile.ofData "<memory>" (teamData "ann@example.org") =
    .ok (teamFile "ann@example.org") ∧
    StackFile.ofData "<memory>" (teamData "bob@local.local") = .ok (teamFile "bob@local.local") :=
  ⟨toOption_eq_some_iff.1 (by decide +kernel), toOption_eq_some_iff.1 (by decide +kernel)⟩

/-- The addresses of the stack are distinct where the one that is declared is not the other's
default. -/
theorem emails_distinct_iff_team :
    (StackFile.ofData "<memory>" (teamData "ann@example.org") = .ok (teamFile "ann@example.org") ∧
      (teamFile "ann@example.org").resolve = .ok (teamDeployment "ann@example.org") ∧
      ∃ doc, build (teamFile "ann@example.org").settings (teamDeployment "ann@example.org")
        teamContext = .ok doc ∧ (doc.users.map (·.email)).Nodup) ∧
    StackFile.ofData "<memory>" (teamData "bob@local.local") = .ok (teamFile "bob@local.local") ∧
      (teamFile "bob@local.local").resolve = .ok (teamDeployment "bob@local.local") ∧
      ∃ doc, build (teamFile "bob@local.local").settings (teamDeployment "bob@local.local")
        teamContext = .ok doc ∧ ¬(doc.users.map (·.email)).Nodup := by
  obtain ⟨hown, hother⟩ := ofData_teamData
  have hresolve := @resolve_teamFile "ann@example.org" (by decide)
  have hresolve' := @resolve_teamFile "bob@local.local" (by decide)
  obtain ⟨doc, hdoc⟩ := exists_build_team "ann@example.org"
  obtain ⟨doc', hdoc'⟩ := exists_build_team "bob@local.local"
  refine ⟨⟨hown, hresolve, doc, hdoc, ?_⟩, hother, hresolve', doc', hdoc', ?_⟩
  · exact (emails_distinct_iff hown hresolve hdoc).2 ⟨by decide +kernel, by decide +kernel⟩
  · rw [emails_distinct_iff hother hresolve' hdoc']
    exact fun h => h.defaults_free _ (List.mem_cons_of_mem _ List.mem_cons_self) rfl
      (by decide +kernel)

/-- The realm of a stack file that resolved may have two users with one address. -/
theorem realm_with_shared_email : ¬∀ (source : String) (data : Data) (f : StackFile)
    (d : Deployment) (context : Context) (doc : Document), StackFile.ofData source data = .ok f →
    f.resolve = .ok d → build f.settings d context = .ok doc → (doc.users.map (·.email)).Nodup := by
  intro h
  obtain ⟨doc, hdoc⟩ := exists_build_team "bob@local.local"
  have hnodup := h _ _ _ _ _ _ ofData_teamData.2 (@resolve_teamFile "bob@local.local" (by decide))
    hdoc
  rw [emails_of_build hdoc] at hnodup
  exact absurd hnodup (by decide)

end Realm
end StackCompiler
