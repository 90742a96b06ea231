import StackCompiler.Proofs.Artifacts.Consistency
import StackCompiler.Proofs.Http.Message

/-!
# The texts of sidecars

The file of a sidecar has one variable a line and nothing is quoted in it, so that it says what was
meant only where no text that gets into it has a line break. Everything else that could be
misread is excluded before: `Artifacts.sidecar_texts_read_back` says that from the files that result
the variables are read back, and from the groups among them the roles that the service requires.
-/

namespace StackCompiler

/-! ## Texts of one line -/

namespace Text

/-- A text without line breaks. -/
def OneLine (s : String) : Prop := '\n' ∉ s.toList

instance (s : String) : Decidable (OneLine s) := inferInstanceAs (Decidable (¬_ ∈ _))

variable {s t : String}

theorem OneLine.append (hs : OneLine s) (ht : OneLine t) : OneLine (s ++ t) := by
  rw [OneLine, String.toList_append, List.mem_append, not_or]
  exact ⟨hs, ht⟩

theorem oneLine_toString (n : Int) : OneLine (toString n) :=
  Routing.not_mem_toString (by decide) (by decide) n

theorem OneLine.intercalate (hs : OneLine s) : ∀ {ss : List String}, (∀ t ∈ ss, OneLine t) →
    OneLine (s.intercalate ss)
  | [], _ => by
    rw [String.intercalate_nil]
    decide
  | t :: ss, h => by
    obtain ⟨ht, hss⟩ := List.forall_mem_cons.1 h
    by_cases hnil : ss = []
    · rw [hnil, String.intercalate_singleton]
      exact ht
    · rw [String.intercalate_cons_of_ne_nil hnil]
      exact (ht.append hs).append (hs.intercalate hss)

theorem comma_not_mem_of_isSlug (hslug : isSlug s) : ',' ∉ s.toList := by
  intro hcomma
  rcases isSlugChar_or_eq_of_isSlug hslug hcomma with h | h
  · exact absurd h (by decide)
  · exact absurd h (by decide)

end Text

open Text

/-! ## Addresses -/

namespace Settings

variable {s : Settings}

/-- The settings that get into the files of sidecars are texts of one line. -/
structure OneLine (s : Settings) : Prop where
  deploymentId : Text.OneLine s.deploymentId
  projectName : Text.OneLine s.projectName
  baseDomain : Text.OneLine s.baseDomain
  realm : Text.OneLine s.realm
  cookieDomain : ∀ domain, s.cookieDomain = some domain → Text.OneLine domain

theorem oneLine_scheme (s : Settings) : Text.OneLine s.scheme := by
  rcases s.scheme_eq with h | h <;> rw [h] <;> decide

theorem OneLine.url (h : s.OneLine) {host : String} (hhost : Text.OneLine host) :
    Text.OneLine (s.url host) :=
  ((((s.oneLine_scheme.append (by decide)).append hhost).append (by decide)).append h.baseDomain)

theorem OneLine.urlOf (h : s.OneLine) {host : String} (hhost : Text.OneLine host) :
    Text.OneLine (s.urlOf (some host)) := by
  unfold Settings.urlOf
  dsimp only
  split
  · exact (s.oneLine_scheme.append (by decide)).append h.baseDomain
  · exact h.url hhost

theorem OneLine.container (h : s.OneLine) {id : String} (hid : Text.OneLine id) :
    Text.OneLine (s.container id) :=
  (((h.deploymentId.append (by decide)).append h.projectName).append (by decide)).append hid

theorem OneLine.issuer (h : s.OneLine) : Text.OneLine (Sidecar.issuer s) := by
  unfold Sidecar.issuer
  split
  · have haddress : Text.OneLine (s.container keycloakHost) := h.container (by decide)
    exact ((((Text.OneLine.append (by decide) haddress).append (by decide)).append
      (oneLine_toString keycloakPort)).append (by decide)).append h.realm
  · exact ((h.url (by decide)).append (by decide)).append h.realm

end Settings

/-! ## Variables -/

namespace Policy

theorem pieces_groups {roles : List String} (hne : roles ≠ [])
    (h : ∀ r ∈ roles, Text.isSlug r) :
    (Text.pieces ',' (groups roles).toList).map String.ofList = roles := by
  have hpieces : Text.pieces ',' (groups roles).toList = roles.map String.toList := by
    rw [groups, String.toList_intercalate]
    refine Text.pieces_intercalate (by simpa using hne) fun r hr => ?_
    obtain ⟨role, hrole, rfl⟩ := List.mem_map.1 hr
    exact Text.comma_not_mem_of_isSlug (h role hrole)
  rw [hpieces, List.map_map]
  exact (List.map_congr_left fun r _ => String.ofList_toList).trans (List.map_id roles)

end Policy

namespace Sidecar

variable {s : Settings} {p : Policy} {context : Context}

/-- The short names of the variables. -/
def names : List String :=
  ["PROVIDER", "OIDC_ISSUER_URL", "CLIENT_ID", "CLIENT_SECRET",
   "INSECURE_OIDC_SKIP_ISSUER_VERIFICATION", "SCOPE", "COOKIE_SECRET", "COOKIE_NAME",
   "COOKIE_SAMESITE", "COOKIE_SECURE", "UPSTREAMS", "REDIRECT_URL", "WHITELIST_DOMAINS",
   "HTTP_ADDRESS", "EMAIL_DOMAINS", "SKIP_PROVIDER_BUTTON", "PASS_ACCESS_TOKEN",
   "PASS_AUTHORIZATION_HEADER", "SET_XAUTHREQUEST", "SILENCE_PING_LOGGING", "OIDC_GROUPS_CLAIM",
   "ALLOWED_GROUPS", "COOKIE_DOMAINS"]

theorem cookieDomain_cases (s : Settings) : cookieDomain s = [] ∨
    ∃ domain, s.cookieDomain = some domain ∧ cookieDomain s = [("COOKIE_DOMAINS", domain)] := by
  unfold cookieDomain
  cases s.cookieDomain with
  | none => exact .inl rfl
  | some domain =>
    dsimp only
    split
    · exact .inl rfl
    · exact .inr ⟨domain, rfl, rfl⟩

/-- Only the variable for cookie domains may not be there. -/
theorem names_sublist (s : Settings) (p : Policy) (context : Context) :
    ((entries s p context).map (·.1)).Sublist names := by
  rw [entries, List.map_append]
  rcases cookieDomain_cases s with h | ⟨domain, -, h⟩ <;> rw [h]
  · exact List.sublist_append_left (names.take 22) _
  · exact List.Sublist.refl _

theorem names_nodup : (names.map (SidecarEnvironment.nameStart ++ ·)).Nodup := by
  decide +kernel

/-- The texts that the variables of a sidecar are put together from are of one line. -/
structure OneLine (s : Settings) (p : Policy) (context : Context) : Prop where
  settings : s.OneLine
  id : Text.OneLine p.id
  host : Text.OneLine p.host
  roles : ∀ r ∈ p.roles, Text.OneLine r
  clientSecret : Text.OneLine context.clientSecret
  cookieSecret : Text.OneLine context.cookieSecret
  address : Text.OneLine context.endpoint.address

theorem oneLine_flag (b : Bool) : Text.OneLine (flag b) := by
  cases b <;> decide

theorem OneLine.entries (h : OneLine s p context) :
    ∀ e ∈ entries s p context, Text.OneLine e.2 := by
  have hclientId : Text.OneLine (sidecarClientId p.id) := .append (by decide) h.id
  have hcookieName : Text.OneLine s!"_oauth2_proxy_{p.id}" := .append (by decide) h.id
  have hupstream : Text.OneLine s!"http://{context.endpoint.address}:{context.endpoint.port}/" :=
    (((Text.OneLine.append (by decide) h.address).append (by decide)).append
      (oneLine_toString _)).append (by decide)
  have hredirect : Text.OneLine s!"{s.urlOf (some p.host)}/oauth2/callback" :=
    (h.settings.urlOf h.host).append (by decide)
  have hdomains : Text.OneLine (allowedDomains s) := .append (by decide) h.settings.baseDomain
  have hgroups : Text.OneLine (Policy.groups p.roles) :=
    Text.OneLine.intercalate (by decide) h.roles
  have hcookieDomain : ∀ e ∈ cookieDomain s, Text.OneLine e.2 := by
    rcases cookieDomain_cases s with hnone | ⟨domain, hsome, hentry⟩
    · rw [hnone]
      exact fun e he => absurd he List.not_mem_nil
    · rw [hentry, List.forall_mem_singleton]
      exact h.settings.cookieDomain domain hsome
  simp only [Sidecar.entries, List.forall_mem_append, List.forall_mem_cons]
  refine ⟨⟨by decide, h.settings.issuer, hclientId, h.clientSecret, oneLine_flag _, by decide,
    h.cookieSecret, hcookieName, by decide, oneLine_flag _, hupstream, hredirect, hdomains,
    by decide, by decide, by decide, by decide, by decide, by decide, by decide, by decide,
    hgroups, fun e he => absurd he List.not_mem_nil⟩, hcookieDomain⟩

end Sidecar

/-! ## Files -/

namespace SidecarEnvironment

/-- The groups that a sidecar lets pass, as it reads them. -/
def groups? (e : SidecarEnvironment) : Option (List String) :=
  (e.get? "ALLOWED_GROUPS").map fun groups => (Text.pieces ',' groups.toList).map String.ofList

/-- What the file of a sidecar says is what was meant. A line ends each variable, and the first
equals sign of a line ends its name; no name is there twice, and a variable is found by its full
name as by its short one. -/
structure ReadsBack (e : SidecarEnvironment) : Prop where
  lines : ∃ lines, Text.pieces '\n' e.text.toList = lines ++ [[]] ∧
    lines.map Http.splitEquals? = e.entries.map fun (name, value) =>
      some (name.toList, value.toList)
  names_nodup : (e.entries.map (·.1)).Nodup
  short_names : ∀ name, ¬name.startsWith nameStart → e.get? name = e.get? (nameStart ++ name)
  values : ∀ fullName value, (fullName, value) ∈ e.entries → e.get? fullName = some value ∧
    ∃ name, fullName = nameStart ++ name ∧ ¬name.startsWith nameStart

theorem startsWith_nameStart (name : String) : (nameStart ++ name).startsWith nameStart := by
  rw [String.startsWith_string_iff, String.toList_append]
  exact List.prefix_append _ _

theorem fullName_of_startsWith {name : String} (h : name.startsWith nameStart) :
    fullName name = name := if_pos h

theorem fullName_of_not_startsWith {name : String} (h : ¬name.startsWith nameStart) :
    fullName name = nameStart ++ name := if_neg h

theorem get?_nameStart_append (e : SidecarEnvironment) {name : String}
    (h : ¬name.startsWith nameStart) : e.get? name = e.get? (nameStart ++ name) := by
  rw [get?, get?, fullName_of_not_startsWith h, fullName_of_startsWith (startsWith_nameStart name)]

/-- The variables of a file are read back where no name has an equals sign and there is no line
break. -/
theorem exists_lines {e : SidecarEnvironment} (hne : e.entries ≠ [])
    (hnames : ∀ v ∈ e.entries, '=' ∉ v.1.toList ∧ Text.OneLine v.1)
    (hvalues : ∀ v ∈ e.entries, Text.OneLine v.2) :
    ∃ lines, Text.pieces '\n' e.text.toList = lines ++ [[]] ∧
      lines.map Http.splitEquals? = e.entries.map fun (name, value) =>
        some (name.toList, value.toList) := by
  let line : String × String → List Char := fun v => v.1.toList ++ '=' :: v.2.toList
  have htext : e.text.toList = ['\n'].intercalate (e.entries.map line) ++ ['\n'] := by
    have hline : ∀ v : String × String, (v.1 ++ "=" ++ v.2).toList = line v := fun v => by
      simp [line]
    have hlines : (e.entries.map fun v => v.1 ++ "=" ++ v.2).map String.toList =
        e.entries.map line := by
      rw [List.map_map]
      exact List.map_congr_left fun v _ => hline v
    change ("\n".intercalate (e.entries.map fun v => v.1 ++ "=" ++ v.2) ++ "\n").toList = _
    rw [String.toList_append, String.toList_intercalate, hlines]
    rfl
  refine ⟨e.entries.map line, ?_, ?_⟩
  · rw [htext]
    refine Text.pieces_intercalate_append (by simpa using hne) fun l hl => ?_
    obtain ⟨v, hv, rfl⟩ := List.mem_map.1 hl
    rw [List.mem_append, List.mem_cons, not_or, not_or]
    exact ⟨(hnames v hv).2, by decide, hvalues v hv⟩
  · rw [List.map_map]
    exact List.map_congr_left fun v hv => Http.splitEquals?_append _ (hnames v hv).1

end SidecarEnvironment

namespace Sidecar

variable {s : Settings} {p : Policy} {context : Context}

open SidecarEnvironment

theorem names_plain : ∀ name ∈ names, ¬name.startsWith nameStart ∧
    '=' ∉ (nameStart ++ name).toList ∧ Text.OneLine (nameStart ++ name) := by
  decide +kernel

theorem OneLine.readsBack (h : OneLine s p context) : (environmentOf s p context).ReadsBack := by
  have hname : ∀ v ∈ (environmentOf s p context).entries, ∃ name ∈ names,
      v.1 = nameStart ++ name := by
    intro v hv
    obtain ⟨e, he, rfl⟩ := List.mem_map.1 hv
    exact ⟨e.1, (names_sublist s p context).subset (List.mem_map_of_mem he), rfl⟩
  have hnodup : ((environmentOf s p context).entries.map (·.1)).Nodup := by
    have hsublist := (names_sublist s p context).map (nameStart ++ ·)
    rw [List.map_map] at hsublist
    rw [environmentOf, List.map_map]
    exact names_nodup.sublist hsublist
  have hvalues : ∀ v ∈ (environmentOf s p context).entries, Text.OneLine v.2 := by
    intro v hv
    obtain ⟨e, he, rfl⟩ := List.mem_map.1 hv
    exact h.entries e he
  refine ⟨exists_lines (List.cons_ne_nil _ _) (fun v hv => ?_) hvalues, hnodup,
    fun name => get?_nameStart_append _, fun fullName value hv => ?_⟩
  · obtain ⟨name, hmem, heq⟩ := hname v hv
    rw [heq]
    exact (names_plain name hmem).2
  · obtain ⟨name, hmem, rfl⟩ := hname _ hv
    have hlookup := lookup_eq_some_of_nodup hnodup hv
    rw [← fullName_of_startsWith (startsWith_nameStart name)] at hlookup
    exact ⟨hlookup, name, rfl, (names_plain name hmem).1⟩

theorem groups?_environmentOf (hne : p.roles ≠ []) (hroles : ∀ r ∈ p.roles, Text.isSlug r) :
    (environmentOf s p context).groups? = some p.roles := by
  have hget : (environmentOf s p context).get? "ALLOWED_GROUPS" = some (Policy.groups p.roles) :=
    get?_environmentOf (by decide +kernel)
  rw [groups?, hget, Option.map_some, Policy.pieces_groups hne hroles]

end Sidecar

/-! ## What compiling writes -/

/-- The settings, roles and secrets of a stack are texts of one line. Its ids and hosts are, where
its artifacts can be compiled at all. -/
structure StackFile.OneLine (f : StackFile) (secrets : Secrets) : Prop where
  settings : f.settings.OneLine
  roles : ∀ e ∈ f.declaration.services, ∀ roles, e.2.roles = some roles →
    ∀ r ∈ roles, Text.OneLine r
  clientSecrets : ∀ e ∈ secrets.clientSecrets, Text.OneLine e.2
  cookieSecrets : ∀ e ∈ secrets.cookieSecrets, Text.OneLine e.2

theorem oneLine_lookup {secrets : List (String × String)} (h : ∀ e ∈ secrets, Text.OneLine e.2)
    (id : String) : Text.OneLine ((secrets.lookup id).getD "") := by
  cases hlookup : secrets.lookup id with
  | none => exact (by decide : Text.OneLine "")
  | some secret => exact h _ (mem_of_lookup_eq_some hlookup)

theorem Catalog.oneLine_builtIn : ∀ id ∈ builtIn.map (·.1), Text.OneLine id := by
  decide

namespace Deployment

theorem exists_service_of_mem_policies {d : Deployment} {p : Policy} (h : p ∈ d.policies) :
    ∃ s ∈ d.services, s.hasSidecar ∧ p = Policy.ofService s := by
  obtain ⟨s, hs, rfl⟩ := List.mem_map.1 (Text.mem_sortById.1 h)
  obtain ⟨hmem, hsidecar⟩ := List.mem_filter.1 hs
  exact ⟨s, hmem, hsidecar, rfl⟩

/-- A service with a sidecar requires roles. -/
theorem Sound.roles_ne_nil {d : Deployment} {known : List String} {s : Service} (h : d.Sound known)
    (hs : s ∈ d.services) (hsidecar : s.hasSidecar) : s.roles ≠ [] := by
  intro hnil
  have hfree := (h.services s hs).free_iff.2 hnil
  rw [Service.hasSidecar, hfree] at hsidecar
  cases hsidecar

end Deployment

/-- The roles that a service requires are declared for it. -/
theorem Declaration.exists_entry_of_mem_services {d : Declaration} {environment : String}
    {s : Service} (h : s ∈ (d.resolve environment).services) (hne : s.roles ≠ []) :
    ∃ e, (s.id, e) ∈ d.services ∧ e.roles = some s.roles := by
  obtain ⟨⟨id, e⟩, he, rfl⟩ := List.mem_map.1 h
  refine ⟨e, Text.mem_sortById.1 he, ?_⟩
  change e.roles.getD [] ≠ [] at hne
  change e.roles = some (e.roles.getD [])
  cases hroles : e.roles with
  | none => exact absurd (by rw [hroles, Option.getD_none]) hne
  | some roles => rfl

theorem Descriptor.describable_of_generate {settings : Settings} {d : Deployment}
    {descriptor : Descriptor} {known : List String} (hsettings : settings.WellFormed)
    (hd : d.Sound known) (h : generate settings d = .ok descriptor) : d.Describable settings := by
  obtain ⟨entries, hsort, rfl, hvalid⟩ := generate_eq_ok_iff.1 h
  exact (draft_valid_iff hsettings hd (perm_of_sortByName hsort)).1 hvalid

namespace Documents

variable {hashing : Hashing} {f : StackFile} {secrets : Secrets} {a : Artifacts} {docs : Documents}

/-- What a sidecar says is read back, and it lets those pass who have a role that is declared for
its service. -/
structure SaysWhatIsMeant (f : StackFile) (env : SidecarEnvironment) : Prop where
  readsBack : env.ReadsBack
  groups : ∃ e roles, (env.id, e) ∈ f.declaration.services ∧ e.roles = some roles ∧
    env.groups? = some roles

theorem saysWhatIsMeant (hwell : f.WellFormed) (hlines : f.OneLine secrets)
    (h : docs.Make hashing f secrets a) {env : SidecarEnvironment} (henv : env ∈ docs.sidecars) :
    SaysWhatIsMeant f env := by
  have hsound := StackFile.sound_of_resolve hwell h.deployment
  have hdescribable := Descriptor.describable_of_generate hwell.settings hsound h.descriptor
  obtain ⟨p, hp, hbuild⟩ := exists_mem_of_mem_mapM h.sidecars env henv
  obtain ⟨context, hcontext, hbuild⟩ := bind_eq_ok.1 hbuild
  obtain ⟨port, -, rfl⟩ := Sidecar.contextOf_eq_ok_iff.1 hcontext
  obtain rfl := Sidecar.build_eq_ok hbuild
  obtain ⟨s, hs, hsidecar, rfl⟩ := Deployment.exists_service_of_mem_policies hp
  have hne := hsound.roles_ne_nil hs hsidecar
  have hservice := hdescribable.services s hs
  obtain ⟨-, -, hresolve⟩ := StackFile.resolve_eq_ok_iff.1 h.deployment
  obtain ⟨e, he, hdeclared⟩ := Declaration.exists_entry_of_mem_services (hresolve ▸ hs) hne
  have hid : Text.OneLine s.id := Catalog.oneLine_builtIn s.id (hsound.services s hs).known
  have hparts : Sidecar.OneLine f.settings (Policy.ofService s)
      ⟨(secrets.clientSecrets.lookup s.id).getD "", (secrets.cookieSecrets.lookup s.id).getD "",
        ⟨f.settings.container s.id, port⟩⟩ :=
    ⟨hlines.settings, hid, hservice.host_unbroken, hlines.roles _ he _ hdeclared,
      oneLine_lookup hlines.clientSecrets s.id, oneLine_lookup hlines.cookieSecrets s.id,
      hlines.settings.container hid⟩
  exact ⟨hparts.readsBack, e, s.roles, he, hdeclared,
    Sidecar.groups?_environmentOf hne hservice.roles_slug⟩

end Documents

namespace Artifacts

/-- Whatever the stack file and the secrets, as long as they have no line breaks: from the files of
the sidecars that result their variables are read back, and from the groups among them the roles
that the services require, in the declared order. -/
theorem sidecar_texts_read_back {σ : Type} {source : String} {data : Data} {f : StackFile}
    (hf : StackFile.ofData source data = .ok f) {hashing : Hashing} {secrets : Secrets}
    (hlines : f.OneLine secrets) {t : Trail σ} {a : Artifacts}
    (h : ((compile hashing f secrets).exec t).1 = .ok a) :
    ∃ docs : Documents, docs.Make hashing f secrets a ∧ (a.sidecars.map (·.1)).Nodup ∧
      ∀ env ∈ docs.sidecars, Documents.SaysWhatIsMeant f env := by
  obtain ⟨docs, hmake⟩ := exec_compile_eq_ok_iff.1 h
  have hwell := StackFile.wellFormed_of_ofData hf
  refine ⟨docs, hmake, ?_, fun env henv => Documents.saysWhatIsMeant hwell hlines hmake henv⟩
  rw [hmake.sidecar_texts, List.map_map]
  change (docs.sidecars.map (·.id)).Nodup
  rw [Sidecar.ids_of_buildAll hmake.sidecars]
  exact (StackFile.sound_of_resolve hwell hmake.deployment).guardedIds_nodup

/-- The file of the sidecar of a stack with a guarded service says what was meant. -/
theorem sidecar_texts_read_back_guarded :
    StackFile.ofData "<memory>" guardedData = .ok guardedFile ∧
      guardedFile.OneLine guardedSecrets ∧
      ∃ a, ((compile guardedHashing guardedFile guardedSecrets).exec
          (⟨(), []⟩ : Trail Unit)).1 = .ok a ∧
        ∃ docs : Documents, docs.Make guardedHashing guardedFile guardedSecrets a ∧
          (a.sidecars.map (·.1)).Nodup ∧
          ∀ env ∈ docs.sidecars, Documents.SaysWhatIsMeant guardedFile env := by
  have hf : StackFile.ofData "<memory>" guardedData = .ok guardedFile :=
    toOption_eq_some_iff.1 (by decide +kernel)
  have hroles : ∀ e ∈ guardedFile.declaration.services, ∀ roles, e.2.roles = some roles →
      ∀ r ∈ roles, Text.OneLine r := by
    intro e he roles hroles
    obtain rfl := List.mem_singleton.1 he
    cases hroles
    decide
  have hlines : guardedFile.OneLine guardedSecrets :=
    ⟨⟨by decide, by decide, by decide, by decide, fun _ h => by cases h⟩, hroles, by decide,
      by decide⟩
  obtain ⟨a, ha⟩ := exec_compile_guardedFile
  exact ⟨hf, hlines, a, ha, sidecar_texts_read_back hf hlines ha⟩

end Artifacts
end StackCompiler
