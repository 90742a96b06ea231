import StackCompiler.Proofs.Artifacts.Compiling
import StackCompiler.Proofs.Deployment.Rules
import StackCompiler.Proofs.Files.Masking
import StackCompiler.Proofs.Realm
import StackCompiler.Proofs.Routing
import StackCompiler.Proofs.Sidecar

/-!
# Where secrets go

Two runs are compared: one with other passwords, or one with other secrets. Passwords only have an
effect on the keys that are stored in the realm (`Artifacts.PasswordsConfined`), and each secret only
on the client and the sidecar that it belongs to (`Artifacts.SecretsConfined`). Whatever everyone may
read after writing is the same in both runs.
-/

namespace StackCompiler

open Session

/-! ## What is left out of a comparison -/

namespace StackFile

/-- The stack file without the passwords of its users. -/
def withoutPasswords (f : StackFile) : StackFile :=
  { f with
    declaration := { f.declaration with
      users := f.declaration.users.map fun u => { u with password := none } } }

end StackFile

/-- The credential without the key that was derived from the password. -/
def Credential.withoutKey (c : Credential) : Credential := { c with secretData := "" }

namespace Realm

/-- The account without the keys of its credentials. -/
def Account.withoutKeys (a : Account) : Account :=
  { a with credentials := a.credentials.map Credential.withoutKey }

/-- The document without the keys of its users. -/
def Document.withoutKeys (doc : Document) : Document :=
  { doc with users := doc.users.map Account.withoutKeys }

def Client.withoutSecret (c : Client) : Client := { c with secret := "" }

/-- The document without the secrets of its clients. -/
def Document.withoutSecrets (doc : Document) : Document :=
  { doc with clients := doc.clients.map Client.withoutSecret }

/-- Each client has its own secret: the portal's, or that of the service that it belongs to. -/
def Document.UsesOwn (doc : Document) (secrets : Secrets) : Prop :=
  ∀ c ∈ doc.clients, (c.id = portalClientId ∧ c.secret = secrets.portalClientSecret) ∨
    ∃ id, c.id = sidecarClientId id ∧ secrets.clientSecrets.lookup id = some c.secret

end Realm

/-! ## Passwords -/

/-- A deployment has no passwords. -/
theorem StackFile.resolve_withoutPasswords (f : StackFile) (environment : String) :
    f.withoutPasswords.declaration.resolve environment = f.declaration.resolve environment := by
  have husers : (f.withoutPasswords.declaration.users.map fun u => u.resolve environment) =
      f.declaration.users.map fun u => u.resolve environment := by
    unfold withoutPasswords
    rw [List.map_map]
    rfl
  have hroles : f.withoutPasswords.declaration.users.flatMap (·.roles) =
      f.declaration.users.flatMap (·.roles) := by
    unfold withoutPasswords
    rw [List.flatMap_map]
  unfold Declaration.resolve realmRoles mentionedRoles
  rw [husers, hroles]
  rfl

/-- Every password has a credential just where keys can be derived. -/
theorem Credential.ofPassword_eq_ok_iff {d : Derivation} {password : String} {c : Credential} :
    ofPassword d password = .ok c ↔
      (0 < d.iterations ∧ d.iterations < (Nat.pow 2 64 : Int)) ∧
        c = {
          secretData := (secretJson d (Pbkdf2.derive (Utf8.encode password) d.salt
            d.iterations.toNat)).write .spaced
          credentialData := (derivationJson d).write .spaced } := by
  rw [ofPassword]
  by_cases hrange : d.iterations < 0 ∨ (Nat.pow 2 64 : Int) ≤ d.iterations
  · rw [if_pos hrange]
    exact ⟨(fun h => by cases h), fun h => by omega⟩
  · rw [if_neg hrange]
    by_cases hzero : d.iterations = 0
    · rw [if_pos hzero]
      exact ⟨(fun h => by cases h), fun h => by omega⟩
    · rw [if_neg hzero]
      exact ⟨fun h => ⟨by omega, (Except.ok.inj h).symm⟩, fun h => by rw [h.2]⟩

theorem UserEntry.credential_eq_ok_iff {u : UserEntry} {d : Credential.Derivation}
    {c : Credential} : u.credential d = .ok c ↔
      u.password.getD "" ≠ "" ∧ Credential.ofPassword d (u.password.getD "") = .ok c := by
  rw [credential]
  by_cases hempty : u.password.getD "" = "" <;> simp [hempty]

/-- What is stored with a key does not depend on the password. -/
def Credential.Derivation.credential (derivation : Credential.Derivation) : Credential where
  secretData := ""
  credentialData := (Credential.derivationJson derivation).write .spaced

theorem UserEntry.withoutKey_of_credential {u : UserEntry} {derivation : Credential.Derivation}
    {c : Credential} (h : u.credential derivation = .ok c) :
    c.withoutKey = derivation.credential := by
  obtain ⟨-, hpassword⟩ := credential_eq_ok_iff.1 h
  obtain ⟨-, rfl⟩ := Credential.ofPassword_eq_ok_iff.1 hpassword
  rfl

theorem Declaration.withoutKeys_of_credentials {hashing : Hashing} {d : Declaration}
    {credentials : List (String × Credential)} (h : d.credentials hashing = .ok credentials) :
    credentials.map (fun e => (e.1, e.2.withoutKey)) =
      (d.users.map (·.username)).zipIdx.map fun e =>
        (e.1, (hashing.derivation e.2).credential) := by
  rw [List.zipIdx_map, List.map_map]
  refine map_eq_map_of_mapM (fun e credential hcredential => ?_) h
  obtain ⟨u, i⟩ := e
  dsimp only at hcredential
  cases hc : u.credential (hashing.derivation i) with
  | error failure =>
    rw [hc] at hcredential
    cases hcredential
  | ok c =>
    rw [hc] at hcredential
    cases hcredential
    exact congrArg (Prod.mk u.username) (UserEntry.withoutKey_of_credential hc)

namespace Realm

variable {s : Settings} {d : Deployment} {context context' : Context} {doc doc' : Document}

/-- The context without the keys of its credentials. -/
def Context.withoutKeys (context : Context) : Context :=
  { context with credentials := context.credentials.map fun e => (e.1, e.2.withoutKey) }

theorem account_withoutKeys {u : User} {a : Account} (h : account s context u = .ok a) :
    account s context.withoutKeys u = .ok a.withoutKeys := by
  obtain ⟨credential, hlookup, rfl⟩ := account_eq_ok_iff.1 h
  refine account_eq_ok_iff.2 ⟨credential.withoutKey, ?_, rfl⟩
  rw [Context.withoutKeys, lookup_map_snd, hlookup]
  rfl

/-- A realm without its keys is built from credentials without keys. -/
theorem withoutKeys_of_build (h : build s d context = .ok doc) :
    build s d context.withoutKeys = .ok doc.withoutKeys := by
  obtain ⟨hportal, pairs, users, hpairs, husers, rfl⟩ := build_eq_ok_iff.1 h
  exact build_eq_ok_iff.2 ⟨hportal, pairs, users.map Account.withoutKeys, hpairs,
    mapM_eq_ok_map (fun _ _ => account_withoutKeys) husers, rfl⟩

/-! ## Secrets of clients -/

theorem clients_withoutSecrets {portalSecret : String} {pairs : List (Policy × String)} :
    (clients s portalSecret pairs).map Client.withoutSecret =
      clients s "" ((pairs.map (·.1)).map (·, "")) := by
  have hsort : ∀ cs : List Client, (Text.sortById (·.id) cs).map Client.withoutSecret =
      Text.sortById (·.id) (cs.map Client.withoutSecret) :=
    fun cs => Text.map_sortById fun _ _ => rfl
  unfold clients
  rw [hsort, List.map_cons, List.map_map, List.map_map, List.map_map]
  rfl

/-- A realm without the secrets of its clients does not depend on any secret. -/
theorem withoutSecrets_eq (h : build s d context = .ok doc) (h' : build s d context' = .ok doc')
    (hcredentials : context'.credentials = context.credentials) :
    doc'.withoutSecrets = doc.withoutSecrets := by
  obtain ⟨-, pairs, users, hpairs, husers, rfl⟩ := build_eq_ok_iff.1 h
  obtain ⟨-, pairs', users', hpairs', husers', rfl⟩ := build_eq_ok_iff.1 h'
  have haccount : account s context' = account s context := by
    unfold account
    rw [hcredentials]
  rw [haccount, husers] at husers'
  obtain rfl := Except.ok.inj husers'
  obtain ⟨hsecrets, rfl⟩ := clientSecrets_eq_ok_iff.1 hpairs
  obtain ⟨hsecrets', rfl⟩ := clientSecrets_eq_ok_iff.1 hpairs'
  unfold Document.withoutSecrets
  dsimp only
  rw [clients_withoutSecrets, clients_withoutSecrets, map_fst_of_clientSecrets hsecrets,
    map_fst_of_clientSecrets hsecrets']

theorem usesOwn_of_build {secrets : Secrets} (h : build s d context = .ok doc)
    (hportal : context.portalClientSecret = secrets.portalClientSecret)
    (hclients : context.clientSecrets = secrets.clientSecrets) : doc.UsesOwn secrets := by
  obtain ⟨pairs, hpairs, heq⟩ := clients_of_build h
  obtain ⟨hsecrets, rfl⟩ := clientSecrets_eq_ok_iff.1 hpairs
  intro c hc
  rw [heq, clients, Text.mem_sortById] at hc
  rcases List.mem_cons.1 hc with rfl | hc
  · exact .inl ⟨rfl, hportal⟩
  · obtain ⟨⟨p, secret⟩, hpair, rfl⟩ := List.mem_map.1 hc
    obtain ⟨p', -, hsecret⟩ := List.mem_filterMap.1 hpair
    obtain ⟨secret', hlookup, heq⟩ := Option.map_eq_some_iff.1 hsecret
    cases heq
    exact .inr ⟨p.id, rfl, hclients ▸ (Option.filter_eq_some_iff.1 hlookup).1⟩

end Realm

/-! ## Sidecars -/

namespace Sidecar

variable {s : Settings} {catalog : Catalog} {d : Deployment} {secrets secrets' : Secrets}
  {es es' : List SidecarEnvironment}

/-- The sidecar of a policy, for an application that is in the catalog. -/
def ofPolicy (s : Settings) (catalog : Catalog) (secrets : Secrets) (p : Policy) :
    SidecarEnvironment :=
  environmentOf s p {
    clientSecret := (secrets.clientSecrets.lookup p.id).getD ""
    cookieSecret := (secrets.cookieSecrets.lookup p.id).getD ""
    endpoint := ⟨s.container p.id, (catalog.port? p.id).getD 0⟩ }

theorem buildAll_eq_ok (h : buildAll s catalog d secrets = .ok es) :
    es = d.policies.map (ofPolicy s catalog secrets) := by
  have hall : ∀ p e, (do build s p (← contextOf s catalog secrets p)) = Except.ok e →
      e = ofPolicy s catalog secrets p := by
    intro p e he
    obtain ⟨context, hcontext, hbuild⟩ := bind_eq_ok.1 he
    obtain ⟨port, hport, rfl⟩ := contextOf_eq_ok_iff.1 hcontext
    rw [build_eq_ok hbuild, ofPolicy, hport, Option.getD_some]
  have hmap : es.map id = d.policies.map (ofPolicy s catalog secrets) := map_eq_map_of_mapM hall h
  rwa [List.map_id] at hmap

/-- A sidecar depends on the secrets of its own service alone. -/
theorem ofPolicy_congr {p : Policy}
    (hclient : secrets'.clientSecrets.lookup p.id = secrets.clientSecrets.lookup p.id)
    (hcookie : secrets'.cookieSecrets.lookup p.id = secrets.cookieSecrets.lookup p.id) :
    ofPolicy s catalog secrets' p = ofPolicy s catalog secrets p := by
  rw [ofPolicy, hclient, hcookie, ofPolicy]

end Sidecar

/-! ## What everyone may read -/

namespace Artifacts

/-- The artifacts differ at most in the files that only their owner may read. -/
structure SameOpen (a b : Artifacts) : Prop where
  routing : b.routing = a.routing
  descriptor : b.descriptor = a.descriptor
  inlineDescriptor : b.inlineDescriptor = a.inlineDescriptor
  ids : b.sidecars.map (·.1) = a.sidecars.map (·.1)

/-- The files differ at most in a text that only the owner may read. -/
structure Output.SameOpen (o o' : Output) : Prop where
  name : o'.name = o.name
  path : o'.path = o.path
  mode : o'.mode = o.mode
  text : o.mode = .everyone → o'.text = o.text

theorem alike_writeOutput {o o' : Output} (h : o.SameOpen o') :
    Machine.Alike (writeOutput o) (writeOutput o') := by
  unfold writeOutput
  rw [h.name, h.path, h.mode]
  refine (Machine.alike_makeDirectory _).bind fun _ => ?_
  dsimp only
  cases hmode : o.mode with
  | everyone =>
    rw [h.text hmode]
    exact (Machine.alike_write _ _).bind fun _ => Machine.alike_note _
  | ownerOnly =>
    change Machine.Alike
      (Machine.write o.path o.text >>= fun _ => Machine.setMode o.path .ownerOnly >>= fun _ => _)
      (Machine.write o.path o'.text >>= fun _ => Machine.setMode o.path .ownerOnly >>= fun _ => _)
    rw [← bind_assoc, ← bind_assoc]
    exact (Machine.alike_write_closed _ _ _).bind fun _ => Machine.alike_note _

theorem SameOpen.outputs {a b : Artifacts} (h : a.SameOpen b) (realm : String) (directory : Path) :
    List.Forall₂ Output.SameOpen (a.outputs realm directory) (b.outputs realm directory) := by
  have hsame : ∀ o, Output.SameOpen o o := fun o => ⟨rfl, rfl, rfl, fun _ => rfl⟩
  have hids : List.Forall₂ (fun x y => y.1 = x.1) a.sidecars b.sidecars := by
    have hmaps := h.ids
    rw [← List.forall₂_eq_eq_eq, List.forall₂_map_left_iff, List.forall₂_map_right_iff] at hmaps
    exact hmaps.flip
  unfold Artifacts.outputs
  rw [h.routing, h.descriptor, h.inlineDescriptor]
  refine List.rel_append (List.rel_append ?_ ?_) (List.forall₂_same.2 fun o _ => hsame o)
  · exact .cons (hsame _) (.cons ⟨rfl, rfl, rfl, fun hmode => by cases hmode⟩ (.cons (hsame _) .nil))
  · rw [List.forall₂_map_left_iff, List.forall₂_map_right_iff]
    refine hids.imp ?_
    rintro ⟨id, text⟩ ⟨_, text'⟩ rfl
    exact ⟨rfl, rfl, rfl, fun hmode => by cases hmode⟩

theorem SameOpen.write {a b : Artifacts} (h : a.SameOpen b) (realm : String) (directory : Path) :
    Machine.Alike (write realm directory a) (write realm directory b) := by
  have houtputs := h.outputs realm directory
  have hnames : (b.outputs realm directory).map (fun o => (o.name, o.path)) =
      (a.outputs realm directory).map fun o => (o.name, o.path) := by
    rw [← List.forall₂_eq_eq_eq, List.forall₂_map_left_iff, List.forall₂_map_right_iff]
    exact houtputs.flip.imp fun o o' ho => Prod.ext ho.name ho.path
  unfold Artifacts.write
  dsimp only
  rw [hnames]
  exact (Machine.alike_forM (houtputs.imp fun _ _ => alike_writeOutput)).bind fun _ =>
    Machine.alike_pure _

/-- After writing either of the artifacts from the same start, the files that everyone may read are
the same. -/
def WrittenAlike (a b : Artifacts) : Prop :=
  ∀ (realm : String) (directory : Path) (t : Trail Machine) (place : Place) (file : File),
    file.mode ≠ .ownerOnly →
      (((write realm directory a).exec t).2.state.tree.file? place = some file ↔
        ((write realm directory b).exec t).2.state.tree.file? place = some file)

theorem SameOpen.writtenAlike {a b : Artifacts} (h : a.SameOpen b) : a.WrittenAlike b := by
  intro realm directory t place file hmode
  obtain ⟨-, htree⟩ := h.write realm directory t t rfl
  exact ⟨Tree.file?_eq_some_of_masked htree hmode, Tree.file?_eq_some_of_masked htree.symm hmode⟩

end Artifacts

/-! ## Two runs -/

namespace Documents

variable {hashing hashing' : Hashing} {f g : StackFile} {secrets secrets' : Secrets}
  {a b : Artifacts} {docs docs' : Documents}

/-- Routing and descriptor are made from the settings and the deployment alone. -/
theorem Make.sameOpen (h : docs.Make hashing f secrets a) (h' : docs'.Make hashing' g secrets' b)
    (hsettings : g.settings = f.settings) (hdeployment : docs'.deployment = docs.deployment) :
    a.SameOpen b := by
  have hrouting : docs'.routing = docs.routing := by
    have hsame := h'.routing
    unfold StackFile.routingDocument at hsame
    rw [hsettings, hdeployment] at hsame
    exact Except.ok.inj (hsame.symm.trans h.routing)
  have hdescriptor : docs'.descriptor = docs.descriptor := by
    have hsame := h'.descriptor
    rw [hsettings, hdeployment] at hsame
    exact Except.ok.inj (hsame.symm.trans h.descriptor)
  have hinline : b.inlineDescriptor = a.inlineDescriptor := by
    have hsame := h'.inline
    unfold StackFile.inlineDescriptor at hsame
    rw [hsettings, hdescriptor] at hsame
    exact Except.ok.inj (hsame.symm.trans h.inline)
  have hids : ∀ {hashing : Hashing} {f : StackFile} {secrets : Secrets} {a : Artifacts}
      {docs : Documents}, docs.Make hashing f secrets a →
        a.sidecars.map (·.1) = docs.deployment.guardedIds := by
    intro _ _ _ _ _ h
    rw [h.sidecar_texts, List.map_map, ← Sidecar.ids_of_buildAll h.sidecars]
    rfl
  refine ⟨?_, ?_, hinline, ?_⟩
  · rw [h'.routing_text, hrouting, h.routing_text]
  · rw [h'.descriptor_text, hdescriptor, h.descriptor_text]
  · rw [hids h', hids h, hdeployment]

theorem Make.exists_context (h : docs.Make hashing f secrets a) : ∃ credentials,
    f.declaration.credentials hashing = .ok credentials ∧
      Realm.build f.settings docs.deployment
        ⟨secrets.portalClientSecret, secrets.clientSecrets, credentials⟩ = .ok docs.realm :=
  bind_eq_ok.1 h.realm

end Documents

namespace Artifacts

/-- Artifacts of stacks with other passwords: they have the same texts but for the realm, and the
realms differ only in the keys of users. -/
structure PasswordsConfined (hashing : Hashing) (secrets : Secrets) (f g : StackFile)
    (a b : Artifacts) : Prop where
  routing : b.routing = a.routing
  sidecars : b.sidecars = a.sidecars
  descriptor : b.descriptor = a.descriptor
  inlineDescriptor : b.inlineDescriptor = a.inlineDescriptor
  realm : ∃ docs docs' : Documents, docs.Make hashing f secrets a ∧
    docs'.Make hashing g secrets b ∧ docs'.realm.withoutKeys = docs.realm.withoutKeys
  written : a.WrittenAlike b

/-- Artifacts of a stack with other secrets: routing and descriptor are the same, each sidecar
depends on the secrets of its own service, and the realms differ only in the secrets of clients,
each of which is that of its own service. -/
structure SecretsConfined (hashing : Hashing) (f : StackFile) (secrets secrets' : Secrets)
    (a b : Artifacts) : Prop where
  routing : b.routing = a.routing
  descriptor : b.descriptor = a.descriptor
  inlineDescriptor : b.inlineDescriptor = a.inlineDescriptor
  sidecars : List.Forall₂ (fun e e' => e'.1 = e.1 ∧
    (secrets'.clientSecrets.lookup e.1 = secrets.clientSecrets.lookup e.1 →
      secrets'.cookieSecrets.lookup e.1 = secrets.cookieSecrets.lookup e.1 → e'.2 = e.2))
    a.sidecars b.sidecars
  realm : ∃ docs docs' : Documents, docs.Make hashing f secrets a ∧
    docs'.Make hashing f secrets' b ∧ docs'.realm.withoutSecrets = docs.realm.withoutSecrets ∧
      docs.realm.UsesOwn secrets ∧ docs'.realm.UsesOwn secrets'
  written : a.WrittenAlike b

variable {hashing : Hashing} {f g : StackFile} {secrets secrets' : Secrets} {a b : Artifacts}
  {docs docs' : Documents}

theorem passwordsConfined_of_make (hsame : f.withoutPasswords = g.withoutPasswords)
    (h : docs.Make hashing f secrets a) (h' : docs'.Make hashing g secrets b) :
    PasswordsConfined hashing secrets f g a b := by
  have hsettings : g.settings = f.settings := (StackFile.mk.inj hsame).1.symm
  have hdeployment : docs'.deployment = docs.deployment := by
    obtain ⟨-, -, heq⟩ := StackFile.resolve_eq_ok_iff.1 h.deployment
    obtain ⟨-, -, heq'⟩ := StackFile.resolve_eq_ok_iff.1 h'.deployment
    rw [heq, heq', hsettings, ← f.resolve_withoutPasswords, hsame, g.resolve_withoutPasswords]
  have hopen := h.sameOpen h' hsettings hdeployment
  have hsidecars : b.sidecars = a.sidecars := by
    have hbuild := h'.sidecars
    rw [hsettings, hdeployment] at hbuild
    rw [h.sidecar_texts, h'.sidecar_texts, Except.ok.inj (hbuild.symm.trans h.sidecars)]
  have hnames : g.declaration.users.map (·.username) = f.declaration.users.map (·.username) := by
    have husers := congrArg (fun f => f.declaration.users.map (·.username)) hsame
    simpa [StackFile.withoutPasswords, Function.comp_def] using husers.symm
  have hrealm : docs'.realm.withoutKeys = docs.realm.withoutKeys := by
    obtain ⟨credentials, hcredentials, hbuild⟩ := h.exists_context
    obtain ⟨credentials', hcredentials', hbuild'⟩ := h'.exists_context
    have hkeys := Declaration.withoutKeys_of_credentials hcredentials
    have hkeys' := Declaration.withoutKeys_of_credentials hcredentials'
    have hstripped := Realm.withoutKeys_of_build hbuild
    have hstripped' := Realm.withoutKeys_of_build hbuild'
    unfold Realm.Context.withoutKeys at hstripped hstripped'
    rw [hkeys', hnames, ← hkeys, hsettings, hdeployment, hstripped] at hstripped'
    exact (Except.ok.inj hstripped').symm
  exact ⟨hopen.routing, hsidecars, hopen.descriptor, hopen.inlineDescriptor,
    ⟨docs, docs', h, h', hrealm⟩, hopen.writtenAlike⟩

theorem secretsConfined_of_make (h : docs.Make hashing f secrets a)
    (h' : docs'.Make hashing f secrets' b) : SecretsConfined hashing f secrets secrets' a b := by
  have hdeployment : docs'.deployment = docs.deployment :=
    Except.ok.inj (h'.deployment.symm.trans h.deployment)
  have hopen := h.sameOpen h' rfl hdeployment
  obtain ⟨credentials, hcredentials, hbuild⟩ := h.exists_context
  obtain ⟨credentials', hcredentials', hbuild'⟩ := h'.exists_context
  have hsame : credentials' = credentials := Except.ok.inj (hcredentials'.symm.trans hcredentials)
  have hsidecars : List.Forall₂ (fun e e' => e'.1 = e.1 ∧
      (secrets'.clientSecrets.lookup e.1 = secrets.clientSecrets.lookup e.1 →
        secrets'.cookieSecrets.lookup e.1 = secrets.cookieSecrets.lookup e.1 → e'.2 = e.2))
      a.sidecars b.sidecars := by
    rw [h.sidecar_texts, h'.sidecar_texts, Sidecar.buildAll_eq_ok h.sidecars,
      Sidecar.buildAll_eq_ok h'.sidecars, hdeployment]
    simp only [List.forall₂_map_left_iff, List.forall₂_map_right_iff, List.forall₂_same]
    exact fun p _ => ⟨rfl, fun hclient hcookie =>
      congrArg SidecarEnvironment.text (Sidecar.ofPolicy_congr hclient hcookie)⟩
  have hown := Realm.usesOwn_of_build hbuild rfl rfl
  have hown' := Realm.usesOwn_of_build hbuild' rfl rfl
  rw [hdeployment] at hbuild'
  exact ⟨hopen.routing, hopen.descriptor, hopen.inlineDescriptor, hsidecars,
    ⟨docs, docs', h, h', Realm.withoutSecrets_eq hbuild hbuild' hsame, hown, hown'⟩,
    hopen.writtenAlike⟩

/-- Passwords only reach the keys of users, and each secret of a bundle only its own client and
sidecar; nothing of either can be read by everyone after writing. -/
theorem secrets_confined {σ : Type} (hashing : Hashing) (f : StackFile) (secrets : Secrets)
    (a : Artifacts) (t : Trail σ) (h : ((compile hashing f secrets).exec t).1 = .ok a) :
    (∀ (g : StackFile) (b : Artifacts) (u : Trail σ), f.withoutPasswords = g.withoutPasswords →
      ((compile hashing g secrets).exec u).1 = .ok b →
        PasswordsConfined hashing secrets f g a b) ∧
    ∀ (secrets' : Secrets) (b : Artifacts) (u : Trail σ),
      ((compile hashing f secrets').exec u).1 = .ok b →
        SecretsConfined hashing f secrets secrets' a b := by
  obtain ⟨docs, hmake⟩ := exec_compile_eq_ok_iff.1 h
  refine ⟨fun g b u hsame hb => ?_, fun secrets' b u hb => ?_⟩
  · obtain ⟨docs', hmake'⟩ := exec_compile_eq_ok_iff.1 hb
    exact passwordsConfined_of_make hsame hmake hmake'
  · obtain ⟨docs', hmake'⟩ := exec_compile_eq_ok_iff.1 hb
    exact secretsConfined_of_make hmake hmake'

/-! ## A stack with one user -/

/-- A stack with a guarded service and a user with some password. -/
def accountFile (password : String) : StackFile where
  settings := { deploymentId := "demo", environment := "local", realm := "main" }
  declaration := {
    users := [{ username := "ann", password := some password, roles := ["dev"] }]
    services := [("demo", { roles := some ["dev"] })] }

def accountDeployment : Deployment where
  environment := "local"
  roles := ["dev"]
  users := [⟨"ann", "ann@local.local", "Ann", "User", ["dev"]⟩]
  services := [
    { id := "demo", displayName := "Demo", host := "demo", access := .proxy, roles := ["dev"] }]

/-- Secrets for the stack, with some secret of the client. -/
def accountSecrets (client : String) : Secrets where
  portalClientSecret := "portal-secret"
  clientSecrets := [("demo", client)]
  cookieSecrets := [("demo", "0123456789abcdef")]

def accountHashing : Hashing where
  salts _ := []

theorem resolve_accountFile {password : String} (h : password = "winter" ∨ password = "summer") :
    (accountFile password).resolve = .ok accountDeployment := by
  rcases h with rfl | rfl
  all_goals
    exact StackFile.resolve_of_known (by decide +kernel) (by decide +kernel) (by decide +kernel)

theorem exists_compile_account {password client : String}
    (hpassword : password = "winter" ∨ password = "summer")
    (hclient : client = "one" ∨ client = "two") :
    ∃ a, ((compile accountHashing (accountFile password) (accountSecrets client)).exec
      (⟨(), []⟩ : Trail Unit)).1 = .ok a := by
  have hresolve := resolve_accountFile hpassword
  rcases hpassword with rfl | rfl <;> rcases hclient with rfl | rfl
  all_goals
    exact exists_compile hresolve rfl (by decide +kernel) (by decide +kernel) (by decide +kernel)
      (by decide +kernel) _

/-- Other passwords and other secrets, each with artifacts to compare. -/
theorem secrets_confined_account : ∃ a b c,
    PasswordsConfined accountHashing (accountSecrets "one") (accountFile "winter")
      (accountFile "summer") a b ∧
    SecretsConfined accountHashing (accountFile "winter") (accountSecrets "one")
      (accountSecrets "two") a c := by
  obtain ⟨a, ha⟩ := exists_compile_account (.inl rfl) (.inl rfl)
  obtain ⟨b, hb⟩ := exists_compile_account (.inr rfl) (.inl rfl)
  obtain ⟨c, hc⟩ := exists_compile_account (.inl rfl) (.inr rfl)
  obtain ⟨hpasswords, hsecrets⟩ := secrets_confined _ _ _ _ _ ha
  exact ⟨a, b, c, hpasswords _ b _ rfl hb, hsecrets _ c _ hc⟩

end Artifacts

end StackCompiler
