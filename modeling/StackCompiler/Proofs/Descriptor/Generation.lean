import StackCompiler.Proofs.Deployment.Rules
import StackCompiler.Proofs.Descriptor.Validity
import StackCompiler.Proofs.Text.Pattern

/-!
# When a descriptor can be generated

Validation does not check all that the schema of descriptors asks for. `Describable` is what is
left: for a stack file that resolves, and whose names can be put in order, it decides whether the
generated document satisfies the schema (`Descriptor.generate_of_resolve`).
-/

namespace StackCompiler

open Text

/-! ## Addresses -/

namespace Settings

variable {s : Settings}

theorem scheme_eq (s : Settings) : s.scheme = "http" ∨ s.scheme = "https" := by
  unfold scheme
  cases s.useHttps
  · exact .inl rfl
  · exact .inr rfl

theorem toList_url (s : Settings) (host : String) : (s.url host).toList =
    s.scheme.toList ++ "://".toList ++ (host.toList ++ '.' :: s.baseDomain.toList) := by
  change (s.scheme ++ "://" ++ host ++ "." ++ s.baseDomain).toList = _
  simp

theorem urlOf_of_ne_empty (s : Settings) {host : String} (h : host ≠ "") :
    s.urlOf (some host) = s.url host := by
  change (if host.isEmpty then _ else s.url host) = _
  rw [if_neg (by simpa using h)]

/-- The address of a host is valid where neither the host nor the domain has a blank, the domain up
to a line feed at its end. -/
theorem isHttpUrl_url_iff {host : String} (hslug : isSlug host) (hdomain : s.baseDomain ≠ "") :
    isHttpUrl (s.url host) ↔
      '\n' ∉ host.toList ∧ Unbroken (dropFinalNewline s.baseDomain.toList) := by
  obtain ⟨c, cs, hhost, hstart⟩ := exists_cons_of_isSlug hslug
  have hne : s.baseDomain.toList ≠ [] := by simpa using hdomain
  have hc : c ≠ '/' := by
    rintro rfl
    cases hstart
  have htail : dropFinalNewline (cs ++ '.' :: s.baseDomain.toList) =
      cs ++ '.' :: dropFinalNewline s.baseDomain.toList := by
    rw [List.append_cons, dropFinalNewline_append hne, List.append_assoc]
    rfl
  have hurl : (s.url host).toList =
      s.scheme.toList ++ "://".toList ++ c :: (cs ++ '.' :: s.baseDomain.toList) := by
    rw [toList_url, hhost]
    rfl
  rw [isHttpUrl_iff s.scheme_eq hurl hc (by simp), htail, ← List.cons_append, ← hhost,
    unbroken_append]
  have hpoint : Unbroken ('.' :: dropFinalNewline s.baseDomain.toList) ↔
      Unbroken (dropFinalNewline s.baseDomain.toList) := by
    unfold Unbroken
    rw [List.forall_mem_cons]
    exact and_iff_right (by decide)
  rw [hpoint]
  refine and_congr_left fun _ => ⟨fun h hmem => ?_, fun h c hc => not_isBlank_of_isSlug hslug h hc⟩
  exact absurd (h '\n' hmem) (by decide)

theorem toList_issuerUrl (s : Settings) : s.issuerUrl.toList = s.scheme.toList ++ "://".toList ++
    'k' :: ("eycloak.".toList ++ s.baseDomain.toList ++ "/realms/".toList ++ s.realm.toList) := by
  change (s.keycloakUrl ++ "/realms/" ++ s.realm).toList = _
  rw [keycloakUrl]
  simp [toList_url, keycloakHost]

theorem isHttpUrl_issuerUrl_iff (hrealm : s.realm ≠ "") : isHttpUrl s.issuerUrl ↔
    Unbroken s.baseDomain.toList ∧ Unbroken (dropFinalNewline s.realm.toList) := by
  have hne : s.realm.toList ≠ [] := by simpa using hrealm
  rw [isHttpUrl_iff s.scheme_eq s.toList_issuerUrl (by decide) (by simp),
    dropFinalNewline_append hne]
  have hfixed : Unbroken "keycloak.".toList ∧ Unbroken "/realms/".toList := by decide
  change Unbroken ("keycloak.".toList ++ s.baseDomain.toList ++ "/realms/".toList ++ _) ↔ _
  simp only [unbroken_append, hfixed, true_and, and_true]

end Settings

namespace Descriptor

/-! ## The order of entries -/

section Sorting

variable {α : Type} {group : α → Option String} {name : α → String} {xs ys : List α}

theorem perm_of_sortByName (h : sortByName group name xs = .ok ys) : ys.Perm xs := by
  obtain ⟨keyed, hkeyed, hys⟩ := bind_eq_ok.1 h
  cases hys
  have hitems : keyed.map (·.2) = xs.map id := by
    refine map_eq_map_of_mapM (fun x y hxy => ?_) hkeyed
    split at hxy
    · cases hxy
      rfl
    · cases hxy
  rw [List.map_id] at hitems
  exact ((List.mergeSort_perm keyed _).map _).trans (hitems ▸ .refl _)

theorem entryKey?_isSome_iff {group : Option String} {name : String} :
    (entryKey? group name).isSome ↔ HasShortNumerals (group.getD "") ∧ HasShortNumerals name := by
  rw [← collationKey?_isSome_iff, ← collationKey?_isSome_iff, entryKey?]
  cases collationKey? (group.getD "") <;> cases collationKey? name <;> simp

theorem exists_sortByName
    (h : ∀ x ∈ xs, HasShortNumerals ((group x).getD "") ∧ HasShortNumerals (name x)) :
    ∃ ys, sortByName group name xs = .ok ys := by
  refine exists_bind_eq_ok (exists_mapM_eq_ok fun x hx => ?_) fun keyed => ⟨_, rfl⟩
  obtain ⟨key, hkey⟩ := Option.isSome_iff_exists.1 (entryKey?_isSome_iff.2 (h x hx))
  rw [hkey]
  exact ⟨_, rfl⟩

theorem sortByName_eq_error
    (h : ¬∀ x ∈ xs, HasShortNumerals ((group x).getD "") ∧ HasShortNumerals (name x)) :
    sortByName group name xs = .error .badValue := by
  simp only [not_forall] at h
  obtain ⟨x, hx, hlong⟩ := h
  have hkey : entryKey? (group x) (name x) = none := by
    rwa [← entryKey?_isSome_iff, Option.not_isSome_iff_eq_none] at hlong
  rw [sortByName, mapM_eq_error (fun x => ?_) hx (by rw [hkey])]
  · rfl
  · cases entryKey? (group x) (name x) with
    | none => exact .inl rfl
    | some key => exact .inr ⟨_, rfl⟩

end Sorting

/-! ## Generation -/

/-- The descriptor that is checked. -/
def draft (settings : Settings) (entries : List Entry) : Descriptor where
  version := currentVersion
  deploymentId := settings.deploymentId
  environment := settings.environment
  baseDomain := settings.baseDomain
  portalUrl := settings.portalUrl
  identityProvider := ⟨settings.keycloakUrl, settings.issuerUrl, settings.realm⟩
  services := entries

theorem generate_eq (settings : Settings) (d : Deployment) :
    generate settings d = (do
      let entries ← sortEntries (d.services.map (entryOf settings))
      check (draft settings entries).toJson
      return draft settings entries) := rfl

/-- What was generated lists each service once and satisfies the schema. -/
theorem generate_eq_ok_iff {settings : Settings} {d : Deployment} {descriptor : Descriptor} :
    generate settings d = .ok descriptor ↔ ∃ entries,
      sortEntries (d.services.map (entryOf settings)) = .ok entries ∧
        descriptor = draft settings entries ∧ descriptor.Valid := by
  rw [generate_eq, bind_eq_ok]
  constructor
  · rintro ⟨entries, hsort, h⟩
    obtain ⟨_, hcheck, hdraft⟩ := bind_eq_ok.1 h
    cases hdraft
    refine ⟨entries, hsort, rfl, ?_⟩
    by_contra hvalid
    obtain ⟨ps, herror⟩ := check_toJson_of_not_valid hvalid
    rw [herror] at hcheck
    cases hcheck
  · rintro ⟨entries, hsort, rfl, hvalid⟩
    exact ⟨entries, hsort, bind_eq_ok.2 ⟨(), check_toJson_of_valid hvalid, rfl⟩⟩

theorem generate_of_not_valid {settings : Settings} {d : Deployment} {entries : List Entry}
    (hsort : sortEntries (d.services.map (entryOf settings)) = .ok entries)
    (h : ¬(draft settings entries).Valid) :
    ∃ ps, generate settings d = .error (.badDescriptor ps) := by
  obtain ⟨ps, herror⟩ := check_toJson_of_not_valid h
  refine ⟨ps, ?_⟩
  rw [generate_eq, hsort]
  change (check (draft settings entries).toJson >>= fun _ => _) = _
  rw [herror]
  rfl

end Descriptor

/-! ## What validation leaves open -/

/-- What the schema of descriptors asks of a service and validation does not. -/
structure Service.Describable (s : Service) : Prop where
  host_unbroken : '\n' ∉ s.host.toList
  name_filled : s.displayName ≠ ""
  group_filled : s.group ≠ some ""
  icon_filled : s.icon ≠ some ""
  roles_slug : ∀ r ∈ s.roles, isSlug r

/-- What the schema of descriptors asks of a stack and validation does not. -/
structure Deployment.Describable (settings : Settings) (d : Deployment) : Prop where
  baseDomain_filled : settings.baseDomain ≠ ""
  baseDomain_unbroken : Unbroken settings.baseDomain.toList
  realm_filled : settings.realm ≠ ""
  realm_unbroken : Unbroken (dropFinalNewline settings.realm.toList)
  services : ∀ s ∈ d.services, s.Describable

/-- The numerals in the names that the services are ordered by can all be read. -/
def Deployment.HasShortNumerals (d : Deployment) : Prop :=
  ∀ s ∈ d.services, Text.HasShortNumerals (s.group.getD "") ∧ Text.HasShortNumerals s.displayName

namespace Descriptor

variable {known : List String} {settings : Settings} {d : Deployment}

theorem entryOf_valid_iff {s : Service} (hs : s.Sound known) (hdomain : settings.baseDomain ≠ "")
    (hunbroken : Unbroken settings.baseDomain.toList) :
    (entryOf settings s).Valid ↔ s.Describable := by
  have hurl : isHttpUrl (settings.urlOf (some s.host)) ↔ '\n' ∉ s.host.toList := by
    rw [Settings.urlOf_of_ne_empty settings hs.host_ne_empty,
      Settings.isHttpUrl_url_iff hs.host_slug hdomain]
    exact and_iff_left (unbroken_dropFinalNewline hunbroken)
  have hguarded : s.isGuarded = true ↔ s.access ≠ .free := bne_iff_ne
  constructor
  · intro h
    refine ⟨hurl.1 h.url_valid, h.name_filled, h.group_filled, h.icon_filled, ?_⟩
    by_cases hfree : s.access = .free
    · rw [hs.free_iff.1 hfree]
      exact fun r hr => absurd hr List.not_mem_nil
    · exact (h.roles_slug s.roles (if_pos (hguarded.2 hfree))).2
  · intro h
    refine ⟨hs.id_slug, h.name_filled, hurl.2 h.host_unbroken, h.group_filled, h.icon_filled,
      ?_, ?_, ?_⟩
    · intro roles hroles
      change (if s.isGuarded then some s.roles else none) = some roles at hroles
      split at hroles
      · rename_i hg
        cases hroles
        exact ⟨fun hnil => hguarded.1 hg (hs.free_iff.2 hnil), h.roles_slug⟩
      · cases hroles
    · intro hfree
      have hg : s.isGuarded = false := bne_eq_false_iff_eq.2 hfree
      exact ⟨hg, if_neg (by rw [hg]; exact Bool.false_ne_true)⟩
    · intro hfree
      have hg := hguarded.2 hfree
      refine ⟨hg, ?_⟩
      change (if s.isGuarded then some s.roles else none) ≠ none
      rw [if_pos hg]
      exact Option.some_ne_none _

theorem draft_valid_iff (hsettings : settings.WellFormed) (hd : d.Sound known)
    {entries : List Entry} (hperm : entries.Perm (d.services.map (entryOf settings))) :
    (draft settings entries).Valid ↔ d.Describable settings := by
  have hportal : isSlug portalHost := by decide
  have hkeycloak : isSlug keycloakHost := by decide
  have hservices : (∀ e ∈ entries, e.Valid) ↔ ∀ s ∈ d.services, (entryOf settings s).Valid := by
    simp only [hperm.mem_iff, List.forall_mem_map]
  constructor
  · intro h
    obtain ⟨hbase, hrealm⟩ := (Settings.isHttpUrl_issuerUrl_iff h.realm_filled).1 h.issuerUrl_valid
    refine ⟨h.baseDomain_filled, hbase, h.realm_filled, hrealm, fun s hs => ?_⟩
    exact (entryOf_valid_iff (hd.services s hs) h.baseDomain_filled hbase).1
      (hservices.1 h.services s hs)
  · intro h
    have hbase := unbroken_dropFinalNewline h.baseDomain_unbroken
    refine ⟨rfl, hsettings.deploymentId_slug, hsettings.environment_slug, h.baseDomain_filled,
      ?_, ?_, ?_, h.realm_filled, hservices.2 fun s hs => ?_⟩
    · exact (Settings.isHttpUrl_url_iff hportal h.baseDomain_filled).2 ⟨by decide, hbase⟩
    · exact (Settings.isHttpUrl_url_iff hkeycloak h.baseDomain_filled).2 ⟨by decide, hbase⟩
    · exact (Settings.isHttpUrl_issuerUrl_iff h.realm_filled).2
        ⟨h.baseDomain_unbroken, h.realm_unbroken⟩
    · exact (entryOf_valid_iff (hd.services s hs) h.baseDomain_filled h.baseDomain_unbroken).2
        (h.services s hs)

theorem exists_sortEntries (hshort : d.HasShortNumerals) :
    ∃ entries, sortEntries (d.services.map (entryOf settings)) = .ok entries :=
  exists_sortByName (List.forall_mem_map.2 hshort)

theorem generate_of_describable (hsettings : settings.WellFormed) (hd : d.Sound known)
    (hshort : d.HasShortNumerals) (h : d.Describable settings) :
    ∃ descriptor, generate settings d = .ok descriptor ∧ schema.accepts descriptor.toJson := by
  obtain ⟨entries, hsort⟩ := exists_sortEntries hshort
  have hvalid := (draft_valid_iff hsettings hd (perm_of_sortByName hsort)).2 h
  refine ⟨_, generate_eq_ok_iff.2 ⟨entries, hsort, rfl, hvalid⟩, ?_⟩
  rw [Schema.accepts, List.isEmpty_iff]
  exact (schema_problems_toJson_eq_nil_iff _).2 hvalid

theorem generate_of_not_describable (hsettings : settings.WellFormed) (hd : d.Sound known)
    (hshort : d.HasShortNumerals) (h : ¬d.Describable settings) :
    ∃ problems, generate settings d = .error (.badDescriptor problems) := by
  obtain ⟨entries, hsort⟩ := exists_sortEntries hshort
  exact generate_of_not_valid hsort fun hvalid =>
    h ((draft_valid_iff hsettings hd (perm_of_sortByName hsort)).1 hvalid)

theorem generate_of_not_hasShortNumerals (hlong : ¬d.HasShortNumerals) :
    generate settings d = .error .badValue := by
  have hsort : sortEntries (d.services.map (entryOf settings)) = .error .badValue :=
    sortByName_eq_error fun h => hlong (List.forall_mem_map.1 h)
  rw [generate_eq, hsort]
  rfl

/-- For a stack file that resolves, a descriptor that satisfies the schema is generated just when
the numerals in its names can be read and the stack is describable; where only the latter fails, the
schema is what fails. -/
theorem generate_of_resolve {source : String} {data : Data} {f : StackFile}
    (hf : StackFile.ofData source data = .ok f) (hd : f.resolve = .ok d) :
    (d.HasShortNumerals → d.Describable f.settings → ∃ descriptor,
      generate f.settings d = .ok descriptor ∧ schema.accepts descriptor.toJson) ∧
    (d.HasShortNumerals → ¬d.Describable f.settings →
      ∃ problems, generate f.settings d = .error (.badDescriptor problems)) ∧
    (¬d.HasShortNumerals → generate f.settings d = .error .badValue) := by
  have hwell := StackFile.wellFormed_of_ofData hf
  have hsound := StackFile.sound_of_resolve hwell hd
  refine ⟨?_, ?_, generate_of_not_hasShortNumerals⟩
  · exact generate_of_describable hwell.settings hsound
  · exact generate_of_not_describable hwell.settings hsound

/-! ## A stack whose service may name a group -/

def sampleData (group : Data) : Data := .record [
  ("stack", .record [
    ("deploymentId", .str "demo"), ("environment", .str "local"), ("keycloakRealm", .str "main")]),
  ("services", .record [("docs", .record [("group", group)])])]

def sampleFile (group : Option String) : StackFile where
  settings := { deploymentId := "demo", environment := "local", realm := "main" }
  declaration := { services := [("docs", { group })] }

def sampleDeployment (group : Option String) : Deployment where
  environment := "local"
  roles := []
  services := [{ id := "docs", displayName := "Docs", host := "docs", access := .free, group }]

theorem resolve_sampleFile {group : Option String} (h : group = none ∨ group = some "") :
    (sampleFile group).resolve = .ok (sampleDeployment group) := by
  rcases h with rfl | rfl
  all_goals
    exact StackFile.resolve_of_known (by decide +kernel) (by decide +kernel) (by decide +kernel)

theorem hasShortNumerals_sampleDeployment {group : Option String}
    (h : group = none ∨ group = some "") : (sampleDeployment group).HasShortNumerals := by
  intro s hs
  cases List.mem_singleton.1 hs
  rcases h with rfl | rfl
  all_goals exact ⟨Text.hasShortNumerals_of_length_le (by decide +kernel),
    Text.hasShortNumerals_of_length_le (by decide +kernel)⟩

theorem not_describable_sampleDeployment :
    ¬(sampleDeployment (some "")).Describable (sampleFile (some "")).settings :=
  fun h => (h.services _ (List.mem_singleton.2 rfl)).group_filled rfl

/-- The stack without a group has a descriptor, the one with an empty group has none. -/
theorem generate_sampleFile :
    (∃ descriptor, generate (sampleFile none).settings (sampleDeployment none) = .ok descriptor) ∧
      ∃ problems, generate (sampleFile (some "")).settings (sampleDeployment (some "")) =
        .error (.badDescriptor problems) := by
  have hplain : StackFile.ofData "<memory>" (sampleData .null) = .ok (sampleFile none) :=
    toOption_eq_some_iff.1 (by decide +kernel)
  have hempty : StackFile.ofData "<memory>" (sampleData (.str "")) = .ok (sampleFile (some "")) :=
    toOption_eq_some_iff.1 (by decide +kernel)
  have hdescribable : (sampleDeployment none).Describable (sampleFile none).settings := by
    refine ⟨by decide, by decide, by decide, by decide, ?_⟩
    intro s hs
    cases List.mem_singleton.1 hs
    exact ⟨by decide, by decide, by decide, by decide, fun r hr => absurd hr List.not_mem_nil⟩
  have hfirst := generate_of_resolve hplain (resolve_sampleFile (.inl rfl))
  have hsecond := generate_of_resolve hempty (resolve_sampleFile (.inr rfl))
  obtain ⟨descriptor, hgenerate, -⟩ :=
    hfirst.1 (hasShortNumerals_sampleDeployment (.inl rfl)) hdescribable
  exact ⟨⟨descriptor, hgenerate⟩,
    hsecond.2.1 (hasShortNumerals_sampleDeployment (.inr rfl)) not_describable_sampleDeployment⟩

/-- Not every stack file that resolves has a descriptor. -/
theorem resolved_stack_without_descriptor :
    ¬∀ source data f d, StackFile.ofData source data = .ok f → f.resolve = .ok d →
      ∃ descriptor, generate f.settings d = .ok descriptor := by
  intro h
  have hempty : StackFile.ofData "<memory>" (sampleData (.str "")) = .ok (sampleFile (some "")) :=
    toOption_eq_some_iff.1 (by decide +kernel)
  have hresolve := resolve_sampleFile (.inr rfl)
  have hwell := StackFile.wellFormed_of_ofData hempty
  obtain ⟨descriptor, hgenerate⟩ := h _ _ _ _ hempty hresolve
  obtain ⟨problems, herror⟩ := generate_of_not_describable hwell.settings
    (StackFile.sound_of_resolve hwell hresolve) (hasShortNumerals_sampleDeployment (.inr rfl))
    not_describable_sampleDeployment
  rw [hgenerate] at herror
  cases herror

end Descriptor
end StackCompiler
