import StackCompiler.Proofs.Artifacts.Consistency
import StackCompiler.Proofs.Artifacts.Placing
import StackCompiler.Proofs.Files.Below

/-!
# Outputs below their directory

The files of artifacts are named after fixed texts and ids of services, which are single names, and
after the realm, which may be any path. `Artifacts.Confined` says that all outputs are put below a
directory, each in a place of its own. This is so for all directories just where the realm's file
stays below them and is not that of the descriptor (`Artifacts.confined_iff_realmFits`), as it is
with every realm without slashes (`Artifacts.realmFits_of_not_mem`).
-/

namespace StackCompiler

namespace Artifacts

variable {a : Artifacts} {realm : String} {directory : Path}

/-! ## Places of outputs -/

/-- Where the file of the realm is put, seen from the directory of the outputs. -/
def realmPlace (realm : String) : Place := Place.ofPath (realmFile realm {})

/-- The file of the realm stays below the directory of the outputs, and is not that of the
descriptor. -/
def RealmFits (realm : String) : Prop :=
  ".." ∉ realmPlace realm ∧ realmPlace realm ≠ ["portal", "descriptor.json"]

/-- Where the outputs are put. -/
def places (realm : String) (directory : Path) (a : Artifacts) : List Place :=
  (a.outputs realm directory).map fun o => Place.ofPath o.path

/-- Where the outputs other than the realm are put, seen from the directory of the outputs. -/
def otherPlaces (a : Artifacts) : List Place :=
  [["traefik", "dynamic.yml"], ["portal", "descriptor.json"]] ++
  (a.sidecars.map fun e => ["oauth2-proxy", s!"{e.1}.env"]) ++
  (match a.inlineDescriptor with
    | some _ => [["portal", "descriptor.env"]]
    | none => [])

section Realm

variable (realm : String)

theorem realmFile_eq (directory : Path) :
    realmFile realm directory = { directory with
      names := directory.names ++ "keycloak" :: (Path.ofString s!"realm-{realm}.json").names } := by
  obtain ⟨cs, hstart⟩ : ∃ cs, (s!"realm-{realm}.json").toList = 'r' :: cs := by
    change ∃ cs, (("realm-" ++ realm) ++ ".json").toList = 'r' :: cs
    rw [String.toList_append, String.toList_append]
    exact ⟨_, rfl⟩
  have hfolder : directory.join "keycloak" =
      { directory with names := directory.names ++ ["keycloak"] } :=
    Path.join_name (by decide) (by decide) directory
  rw [realmFile, hfolder, Path.join_of_ne_slash hstart (by decide), List.append_assoc,
    List.singleton_append]

theorem exists_getLast?_realmPlace :
    ∃ start, (realmPlace realm).getLast? = some (start ++ ".json") :=
  Path.exists_getLast?_ofPath_join (by decide) (by decide) (({} : Path).join "keycloak")
    ("realm-" ++ realm)

variable {realm}

/-- If the file of the realm stays below one directory, it stays below all of them. -/
theorem ofPath_realmFile (h : ".." ∉ realmPlace realm) (directory : Path) :
    Place.LeadDown (realmPlace realm) ∧
      Place.ofPath (realmFile realm directory) = Place.ofPath directory ++ realmPlace realm := by
  have hslash : "/" ∉ "keycloak" :: (Path.ofString s!"realm-{realm}.json").names := by
    rw [List.mem_cons, not_or]
    exact ⟨by decide, Path.slash_not_mem_names _⟩
  rw [realmPlace, realmFile_eq realm {}] at h ⊢
  rw [realmFile_eq realm directory]
  exact Place.ofPath_append hslash h directory

end Realm

theorem isName_env {id : String} (h : Text.isSlug id) : Path.IsName s!"{id}.env" := by
  refine Path.isName_append id ".env" (fun hslash => ?_) (by decide) (by decide)
  exact absurd (Text.isSlugChar_or_eq_of_isSlug h hslash) (by decide)

/-- The places of outputs, seen from their directory, do not depend on it. -/
theorem places_perm (hids : ∀ e ∈ a.sidecars, Text.isSlug e.1) (h : ".." ∉ realmPlace realm)
    (directory : Path) : (a.places realm directory).Perm
      ((realmPlace realm :: a.otherPlaces).map (Place.ofPath directory ++ ·)) := by
  have hfile : ∀ folder name : String, Path.IsName folder → Path.IsName name →
      Place.ofPath ((directory.join folder).join name) =
        Place.ofPath directory ++ [folder, name] := by
    intro folder name hfolder hname
    rw [Place.ofPath_join_of_isName hname, Place.ofPath_join_of_isName hfolder, List.append_assoc,
      List.singleton_append]
  have hrouting := hfile "traefik" "dynamic.yml" (by decide) (by decide)
  have hrealm := (ofPath_realmFile h directory).2
  have hdescriptor := hfile "portal" "descriptor.json" (by decide) (by decide)
  have hsidecars : (a.sidecars.map fun e =>
      Place.ofPath ((directory.join "oauth2-proxy").join s!"{e.1}.env")) =
      a.sidecars.map fun e => Place.ofPath directory ++ ["oauth2-proxy", s!"{e.1}.env"] :=
    List.map_congr_left fun e he => hfile _ _ (by decide) (isName_env (hids e he))
  have hinline := hfile "portal" "descriptor.env" (by decide) (by decide)
  rw [realmFile] at hrealm
  unfold places outputs otherPlaces
  simp only [List.map_append, List.map_cons, List.map_nil, List.map_map, Function.comp_def,
    hrouting, hrealm, hdescriptor, hsidecars]
  cases a.inlineDescriptor with
  | none => exact .swap ..
  | some text =>
    simp only [List.map_cons, List.map_nil, hinline]
    exact .swap ..

/-- The realm's file is one file in its directory, if the name of the realm has no slash. -/
theorem realmFits_of_not_mem (h : '/' ∉ realm.toList) : RealmFits realm := by
  have hname : Path.IsName s!"realm-{realm}.json" := by
    refine Path.isName_append ("realm-" ++ realm) ".json" ?_ (by decide) (by decide)
    rw [String.toList_append, List.mem_append, not_or]
    exact ⟨by decide, h⟩
  have hplace : realmPlace realm = ["keycloak", s!"realm-{realm}.json"] := by
    rw [realmPlace, realmFile, Place.ofPath_join_of_isName hname,
      Place.ofPath_join_of_isName (by decide)]
    rfl
  rw [RealmFits, hplace]
  refine ⟨fun hmem => ?_, fun heq => ?_⟩
  · rcases List.mem_cons.1 hmem with heq | hmem
    · exact absurd heq (by decide)
    · exact hname.2.2 (List.mem_singleton.1 hmem).symm
  · exact absurd (List.cons.inj heq).1 (by decide)

theorem leadDown_realmPlace (h : ".." ∉ realmPlace realm) :
    realmPlace realm ≠ [] ∧ Place.LeadDown (realmPlace realm) := by
  refine ⟨fun hnil => ?_, (ofPath_realmFile h {}).1⟩
  obtain ⟨start, hlast⟩ := exists_getLast?_realmPlace realm
  rw [hnil] at hlast
  cases hlast

/-! ## Other places than the realm's -/

/-- The places of those outputs that have fixed names. -/
def fixedPlaces : List Place :=
  [["traefik", "dynamic.yml"], ["portal", "descriptor.json"], ["portal", "descriptor.env"]]

section Others

variable {place : Place}

theorem otherPlaces_cases (h : place ∈ a.otherPlaces) :
    place ∈ fixedPlaces ∨ ∃ e ∈ a.sidecars, place = ["oauth2-proxy", s!"{e.1}.env"] := by
  unfold otherPlaces at h
  rw [List.mem_append, List.mem_append] at h
  rcases h with (h | h) | h
  · exact .inl (List.mem_append_left [["portal", "descriptor.env"]] h)
  · obtain ⟨e, he, rfl⟩ := List.mem_map.1 h
    exact .inr ⟨e, he, rfl⟩
  · split at h
    · obtain rfl := List.mem_singleton.1 h
      exact .inl (by decide)
    · exact absurd h List.not_mem_nil

theorem leadDown_of_mem_otherPlaces (hids : ∀ e ∈ a.sidecars, Text.isSlug e.1)
    (h : place ∈ a.otherPlaces) : place ≠ [] ∧ Place.LeadDown place := by
  rcases otherPlaces_cases h with h | ⟨e, he, rfl⟩
  · have hfixed : ∀ place ∈ fixedPlaces, place ≠ [] ∧ Place.LeadDown place := by decide
    exact hfixed place h
  · obtain ⟨hslash, -, hback⟩ := isName_env (hids e he)
    refine ⟨List.cons_ne_nil _ _, fun name hname => ?_⟩
    rcases List.mem_cons.1 hname with rfl | hname
    · decide
    · obtain rfl := List.mem_singleton.1 hname
      exact ⟨hback, fun heq => hslash (heq ▸ by decide)⟩

theorem nodup_otherPlaces (hids : (a.sidecars.map (·.1)).Nodup) : a.otherPlaces.Nodup := by
  have hfolders : ∀ place ∈ fixedPlaces, place.head? ≠ some "oauth2-proxy" := by decide
  have hsidecars : (a.sidecars.map fun e => ["oauth2-proxy", s!"{e.1}.env"]).Nodup := by
    refine List.Nodup.map_on (fun e he e' he' heq => ?_) hids.of_map
    obtain ⟨hname, -⟩ := List.cons.inj (List.cons.inj heq).2
    exact List.inj_on_of_nodup_map hids he he' ((String.append_left_inj ".env").1 hname)
  have hall : (fixedPlaces ++ a.sidecars.map fun e => ["oauth2-proxy", s!"{e.1}.env"]).Nodup := by
    refine List.nodup_append.2 ⟨by decide, hsidecars, ?_⟩
    rintro place hplace _ hmem rfl
    obtain ⟨e, -, rfl⟩ := List.mem_map.1 hmem
    exact hfolders _ hplace rfl
  have hperm : ([["traefik", "dynamic.yml"], ["portal", "descriptor.json"]] ++
      (a.sidecars.map fun e => ["oauth2-proxy", s!"{e.1}.env"]) ++
        [["portal", "descriptor.env"]]).Perm
      (fixedPlaces ++ a.sidecars.map fun e => ["oauth2-proxy", s!"{e.1}.env"]) :=
    ((List.perm_append_singleton _ _).cons _).cons _
  refine (hperm.nodup_iff.2 hall).sublist (List.Sublist.append_left ?_ _)
  cases a.inlineDescriptor with
  | none => exact List.nil_sublist _
  | some text => exact List.Sublist.refl _

/-- The file of the realm is called like none of the others but perhaps the descriptor. -/
theorem realmPlace_ne_of_mem_otherPlaces (realm : String) (h : place ∈ a.otherPlaces)
    (hne : place ≠ ["portal", "descriptor.json"]) : realmPlace realm ≠ place := by
  have hlast : ∃ start ending : String, ending ∈ [".yml", ".env"] ∧
      place.getLast? = some (start ++ ending) := by
    rcases otherPlaces_cases h with h | ⟨e, -, rfl⟩
    · simp only [fixedPlaces, List.mem_cons, List.not_mem_nil, or_false] at h
      rcases h with rfl | rfl | rfl
      · exact ⟨"dynamic", ".yml", by decide, rfl⟩
      · exact absurd rfl hne
      · exact ⟨"descriptor", ".env", by decide, rfl⟩
    · exact ⟨e.1, ".env", by decide, rfl⟩
  obtain ⟨start, ending, hending, hlast⟩ := hlast
  have hdifferent : ∀ e ∈ [".yml", ".env"], ¬e.toList <:+ ".json".toList ∧
      ¬".json".toList <:+ e.toList := by decide
  obtain ⟨hsuffix, hsuffix'⟩ := hdifferent ending hending
  rintro rfl
  obtain ⟨start', hlast'⟩ := exists_getLast?_realmPlace realm
  have hsame := Option.some.inj (hlast.symm.trans hlast')
  exact Path.append_ne_append hsuffix hsuffix' start start' hsame

/-- All outputs but the realm and the descriptor are in places of their own. -/
theorem nodup_cons_otherPlaces_iff (hids : (a.sidecars.map (·.1)).Nodup) :
    (realmPlace realm :: a.otherPlaces).Nodup ↔
      realmPlace realm ≠ ["portal", "descriptor.json"] := by
  have hmem : ["portal", "descriptor.json"] ∈ a.otherPlaces := by simp [otherPlaces]
  rw [List.nodup_cons, and_iff_left (nodup_otherPlaces hids)]
  constructor
  · exact fun h heq => h (heq ▸ hmem)
  · intro h hrealm
    exact realmPlace_ne_of_mem_otherPlaces realm hrealm h rfl

end Others

/-! ## Writing -/

theorem leaves_writeOutput {o : Output} {q : Place} (h : q ≠ .ofPath o.path) :
    Machine.Leaves q (writeOutput o) := by
  have hmade : Machine.Leaves q (Machine.makeDirectory o.path.parent) :=
    Machine.leaves_changeTree fun _ _ hmake => Tree.file?_of_makeDirectory hmake q
  have hwritten : Machine.Leaves q (Machine.write o.path o.text) :=
    Machine.leaves_changeTree fun _ _ hwrite => Tree.file?_of_write hwrite h
  have hset : Machine.Leaves q (Machine.setMode o.path o.mode) :=
    Machine.leaves_changeTree fun _ _ hmode => Tree.file?_of_setMode hmode h
  unfold writeOutput
  refine hmade.bind fun _ => hwritten.bind fun _ => ?_
  split
  · exact hset.bind fun _ => Machine.leaves_note _
  · exact Machine.leaves_note _

/-- However writing ends, files at other places are as they were. -/
theorem leaves_write {q : Place} (h : q ∉ a.places realm directory) :
    Machine.Leaves q (write realm directory a) := by
  have hne : ∀ o ∈ a.outputs realm directory, q ≠ .ofPath o.path := fun _ ho heq =>
    h (heq ▸ List.mem_map_of_mem ho)
  exact (Machine.leaves_forM fun o ho => leaves_writeOutput (hne o ho)).bind fun _ =>
    Machine.leaves_pure _

/-- Outputs in places of their own are all there after they were written. -/
theorem holds_of_write (h : (a.places realm directory).Nodup) {t t' : Trail Machine}
    {files : List (String × Path)} (hwrite : (write realm directory a).exec t = (.ok files, t'))
    {o : Output} (ho : o ∈ a.outputs realm directory) : t'.state.tree.Holds o.path o.text := by
  have hplaced := placeAll_of_write hwrite
  refine Tree.holds_iff.2 ⟨(occupied_of_placeAll hplaced o ho).toFound, ?_⟩
  rw [textAt_of_placeAll hplaced]
  exact lastText_of_mem h ho _

/-! ## Confinement -/

/-- The outputs are put below the directory, each in a place of its own. So none of them is written
over another one, and no file outside of the directory changes, even if writing fails half-way. -/
structure Confined (realm : String) (directory : Path) (a : Artifacts) : Prop where
  below : ∀ o ∈ a.outputs realm directory, (Place.ofPath o.path).IsBelow (.ofPath directory)
  apart : (a.places realm directory).Nodup
  kept : ∀ t files t', (write realm directory a).exec t = (.ok files, t') →
    ∀ o ∈ a.outputs realm directory, t'.state.tree.Holds o.path o.text
  untouched : ∀ q : Place, ¬q.IsBelow (.ofPath directory) → ∀ t,
    ((write realm directory a).exec t).2.state.tree.file? q = t.state.tree.file? q

theorem confined_of_places (hbelow : ∀ q ∈ a.places realm directory,
    q.IsBelow (Place.ofPath directory)) (hapart : (a.places realm directory).Nodup) :
    a.Confined realm directory where
  below _ ho := hbelow _ (List.mem_map_of_mem ho)
  apart := hapart
  kept _ _ _ hwrite _ ho := holds_of_write hapart hwrite ho
  untouched q hq := leaves_write fun hmem => hq (hbelow q hmem)

theorem confined_iff (hslugs : ∀ e ∈ a.sidecars, Text.isSlug e.1)
    (hids : (a.sidecars.map (·.1)).Nodup) :
    (∀ directory, a.Confined realm directory) ↔ RealmFits realm := by
  constructor
  · intro h
    have hback : ".." ∉ realmPlace realm := by
      have hrealm : (⟨"realm", realmFile realm {}, a.realm, .ownerOnly⟩ : Output) ∈
          a.outputs realm {} := by simp [outputs, realmFile]
      obtain ⟨-, hdown⟩ := Place.isBelow_here_iff.1 ((h {}).below _ hrealm)
      exact fun hmem => (hdown _ hmem).1 rfl
    refine ⟨hback, (nodup_cons_otherPlaces_iff hids).1 ?_⟩
    exact ((places_perm hslugs hback {}).nodup_iff.1 (h {}).apart).of_map
  · rintro ⟨hback, hne⟩ directory
    have hperm := places_perm hslugs hback directory
    refine confined_of_places (fun q hq => ?_) (hperm.nodup_iff.2 ?_)
    · obtain ⟨place, hplace, rfl⟩ := List.mem_map.1 (hperm.mem_iff.1 hq)
      apply Place.isBelow_append_iff.2
      rcases List.mem_cons.1 hplace with rfl | hplace
      · exact leadDown_realmPlace hback
      · exact leadDown_of_mem_otherPlaces hslugs hplace
    · have hinjective : Function.Injective (Place.ofPath directory ++ ·) := fun _ _ heq =>
        List.append_cancel_left heq
      exact ((nodup_cons_otherPlaces_iff hids).2 hne).map hinjective

end Artifacts

theorem Documents.Make.sidecar_ids {docs : Documents} {hashing : Hashing} {f : StackFile}
    {secrets : Secrets} {a : Artifacts} (hwell : f.WellFormed) (h : docs.Make hashing f secrets a) :
    (∀ e ∈ a.sidecars, Text.isSlug e.1) ∧ (a.sidecars.map (·.1)).Nodup := by
  have hsound := StackFile.sound_of_resolve hwell h.deployment
  have hids : a.sidecars.map (·.1) = docs.deployment.guardedIds := by
    rw [h.sidecar_texts, List.map_map, ← Sidecar.ids_of_buildAll h.sidecars]
    rfl
  refine ⟨fun e he => ?_, hids ▸ hsound.guardedIds_nodup⟩
  have hmem : e.1 ∈ docs.deployment.protectedIds :=
    docs.deployment.guardedIds_perm.mem_iff.1 (hids ▸ List.mem_map_of_mem he)
  obtain ⟨s, hs, heq⟩ := List.mem_map.1 hmem
  exact heq ▸ (hsound.services s (List.mem_of_mem_filter hs)).id_slug

namespace Artifacts

/-- Artifacts are confined to every directory just where the name of the realm fits. -/
theorem confined_iff_realmFits {σ : Type} {source : String} {data : Data} {f : StackFile}
    (hf : StackFile.ofData source data = .ok f) {hashing : Hashing} {secrets : Secrets}
    {t : Trail σ} {a : Artifacts}
    (h : ((Artifacts.compile hashing f secrets).exec t).1 = .ok a) :
    (∀ directory, a.Confined f.settings.realm directory) ↔ RealmFits f.settings.realm := by
  obtain ⟨docs, hmake⟩ := exec_compile_eq_ok_iff.1 h
  obtain ⟨hslugs, hids⟩ := hmake.sidecar_ids (StackFile.wellFormed_of_ofData hf)
  exact confined_iff hslugs hids

/-- The artifacts of a realm without slashes are confined. -/
theorem confined_guarded :
    StackFile.ofData "<memory>" guardedData = .ok guardedFile ∧
      ∃ a, ((compile guardedHashing guardedFile guardedSecrets).exec
          (⟨(), []⟩ : Trail Unit)).1 = .ok a ∧
        ∀ directory, a.Confined guardedFile.settings.realm directory := by
  have hf : StackFile.ofData "<memory>" guardedData = .ok guardedFile :=
    toOption_eq_some_iff.1 (by decide +kernel)
  obtain ⟨a, ha⟩ := exec_compile_guardedFile
  exact ⟨hf, a, ha, (confined_iff_realmFits hf ha).2 (realmFits_of_not_mem (by decide))⟩

/-! ## Realms that do not fit -/

def steppingData (realm : String) : Data := .record [
  ("stack", .record [
    ("deploymentId", .str "demo"), ("environment", .str "local"), ("keycloakRealm", .str realm)]),
  ("services", .record [("demo", .record [("requiredRoles", .strs ["dev"])])])]

def steppingFile (realm : String) : StackFile :=
  { guardedFile with settings := { guardedFile.settings with realm } }

theorem exists_compile_steppingFile {realm : String}
    (hrealm : realm = "/../../portal/descriptor" ∨ realm = "x/../../../main") :
    StackFile.ofData "<memory>" (steppingData realm) = .ok (steppingFile realm) ∧
      ∃ a, ((compile guardedHashing (steppingFile realm) guardedSecrets).exec
        (⟨(), []⟩ : Trail Unit)).1 = .ok a := by
  have hresolve : (steppingFile realm).resolve = .ok guardedDeployment := resolve_guardedFile
  rcases hrealm with rfl | rfl
  · exact ⟨toOption_eq_some_iff.1 (by decide +kernel), exists_compile hresolve rfl
      (by decide +kernel) (by decide +kernel) (by decide +kernel) (by decide +kernel) _⟩
  · exact ⟨toOption_eq_some_iff.1 (by decide +kernel), exists_compile hresolve rfl
      (by decide +kernel) (by decide +kernel) (by decide +kernel) (by decide +kernel) _⟩

/-- Two steps back from a directory of the realm lead to the file of the descriptor, and three to a
file outside of the directory of the outputs. -/
theorem realm_steps_out :
    (∃ a, StackFile.ofData "<memory>" (steppingData "/../../portal/descriptor") =
        .ok (steppingFile "/../../portal/descriptor") ∧
      ((compile guardedHashing (steppingFile "/../../portal/descriptor") guardedSecrets).exec
        (⟨(), []⟩ : Trail Unit)).1 = .ok a ∧
      ¬(a.places "/../../portal/descriptor" (.ofString "out")).Nodup) ∧
    ∃ a, StackFile.ofData "<memory>" (steppingData "x/../../../main") =
        .ok (steppingFile "x/../../../main") ∧
      ((compile guardedHashing (steppingFile "x/../../../main") guardedSecrets).exec
        (⟨(), []⟩ : Trail Unit)).1 = .ok a ∧
      ["main.json"] ∈ a.places "x/../../../main" (.ofString "out") ∧
      ¬Place.IsBelow ["main.json"] (.ofPath (.ofString "out")) := by
  have hout : Path.ofString "out" = ⟨"", ["out"]⟩ := Path.ofString_name (by decide) (by decide)
  obtain ⟨hdata, a, ha⟩ := exists_compile_steppingFile (.inl rfl)
  obtain ⟨hdata', a', ha'⟩ := exists_compile_steppingFile (.inr rfl)
  refine ⟨⟨a, hdata, ha, fun hnodup => ?_⟩, a', hdata', ha', ?_, ?_⟩
  · have hplace : Place.ofPath (realmFile "/../../portal/descriptor" ⟨"", ["out"]⟩) =
        ["out", "portal", "descriptor.json"] := by
      rw [realmFile_eq, Path.ofString_eq]
      decide +kernel
    have hsame : Place.ofPath (((⟨"", ["out"]⟩ : Path).join "portal").join "descriptor.json") =
        ["out", "portal", "descriptor.json"] := by
      rw [Place.ofPath_join_of_isName (by decide), Place.ofPath_join_of_isName (by decide)]
      rfl
    rw [hout] at hnodup
    obtain ⟨hrealm, -⟩ := List.nodup_cons.1 (List.nodup_cons.1 hnodup).2
    exact hrealm (List.mem_cons.2 (.inl (hplace.trans hsame.symm)))
  · have hplace : Place.ofPath (realmFile "x/../../../main" ⟨"", ["out"]⟩) = ["main.json"] := by
      rw [realmFile_eq, Path.ofString_eq]
      decide +kernel
    rw [hout, ← hplace]
    exact List.mem_cons_of_mem _ List.mem_cons_self
  · rintro ⟨names, -, -, heq⟩
    rw [hout] at heq
    exact absurd (List.cons.inj heq).1 (by decide)

end Artifacts
end StackCompiler
