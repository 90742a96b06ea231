import Mathlib.Data.List.Permutation
import StackCompiler.Proofs.Cascade.Deciding
import StackCompiler.Proofs.CommandLine.Printing
import StackCompiler.Proofs.CommandLine.Reading
import StackCompiler.Proofs.Descriptor.Ordering
import StackCompiler.Proofs.Encoding.Percent
import StackCompiler.Proofs.Text.Mark
import StackCompiler.Proofs.Text.Split

/-!
# Planning a sign-out

A plan says which services a sign-out would visit if some hosts did not answer. A host is looked for
in the address of a service as a text, which finds just the host that the service has
(`Settings.occursIn_url_iff`). So the plan of a stack that resolves and has a descriptor is a line
for each service with a sidecar, in the order of the descriptor, and one for the end of the session
(`CommandLine.plans_declared_services`). Terminal sequences in it are not printed
(`CommandLine.plan_printed_otherwise`).
-/

namespace StackCompiler

open Text

/-! ## Hosts in addresses -/

namespace Settings

/-- A slug is found as a host in the address of a host just where it is that host, if nothing in the
domain looks like the beginning of an address. -/
theorem occursIn_url_iff {s : Settings} {u host : String} (hu : isSlug u) (hhost : isSlug host)
    (hdomain : ¬"://".toList <:+: s.baseDomain.toList) :
    occursIn (s!"://{u}.").toList (s.url host).toList ↔ u = host := by
  have hfree : ∀ {w : String}, isSlug w → ':' ∉ w.toList ∧ '.' ∉ w.toList := fun hw =>
    ⟨fun h => absurd (isSlugChar_or_eq_of_isSlug hw h) (by decide),
      fun h => absurd (isSlugChar_or_eq_of_isSlug hw h) (by decide)⟩
  have hmark : (s!"://{u}.").toList = ':' :: ('/' :: '/' :: (u.toList ++ ['.'])) := by
    change ("://" ++ u ++ ".").toList = _
    simp
  have hurl : (s.url host).toList =
      s.scheme.toList ++ ':' :: (['/', '/'] ++ ((host.toList ++ ['.']) ++ s.baseDomain.toList)) := by
    rw [toList_url]
    simp
  have hscheme : ':' ∉ s.scheme.toList := by
    rcases s.scheme_eq with h | h <;> rw [h] <;> decide
  rw [occursIn_iff, hmark, hurl]
  constructor
  · intro h
    rcases List.infix_cons_iff.1 (infix_of_infix_append hscheme h) with hstart | hlater
    · -- at the beginning of the address
      obtain ⟨rest, hrest⟩ := hstart
      have hparts : u.toList ++ '.' :: rest = host.toList ++ '.' :: s.baseDomain.toList := by
        simpa using hrest
      have hpieces := congrArg (pieces '.') hparts
      rw [pieces_append_cons _ (hfree hu).2,
        pieces_append_cons _ (hfree hhost).2] at hpieces
      exact String.toList_injective (List.cons.inj hpieces).1
    · -- later, so in the domain
      have hslashes : ':' ∉ ['/', '/'] := by decide
      have hname : ':' ∉ host.toList ++ ['.'] := by
        rw [List.mem_append, not_or]
        exact ⟨(hfree hhost).1, by decide⟩
      have hpart := infix_of_infix_append hname (infix_of_infix_append hslashes hlater)
      have hbegin : "://".toList <:+: ':' :: ('/' :: '/' :: (u.toList ++ ['.'])) :=
        List.IsPrefix.isInfix ⟨u.toList ++ ['.'], rfl⟩
      exact absurd (hbegin.trans hpart) hdomain
  · rintro rfl
    exact ⟨s.scheme.toList, s.baseDomain.toList, by simp⟩

end Settings

/-! ## The order of the descriptor -/

namespace Descriptor

variable {settings : Settings} {d : Deployment} {descriptor : Descriptor}

/-- The services that a sign-out visits: those with a sidecar, in the order of the descriptor. The
others do not matter for that order. -/
structure Visits (settings : Settings) (d : Deployment) (descriptor : Descriptor)
    (services : List Service) : Prop where
  perm : services.Perm (d.services.filter (·.hasSidecar))
  entries : services.map (entryOf settings) = descriptor.workList
  sorted : sortEntries ((d.services.filter (·.hasSidecar)).map (entryOf settings)) =
    .ok descriptor.workList

theorem exists_visits_of_generate (h : generate settings d = .ok descriptor) :
    ∃ services, Visits settings d descriptor services := by
  obtain ⟨entries, hsort, rfl, -⟩ := generate_eq_ok_iff.1 h
  obtain ⟨-, hentries⟩ := eq_mergeSort_of_sortByName hsort
  let key : Service → EntryKey := fun s => keyOf (·.group) (·.name) (entryOf settings s)
  let services := d.services.mergeSort fun s s' => ((key s).compare (key s')).isLE
  have hmap : services.map (entryOf settings) = entries := by
    rw [hentries]
    exact List.map_mergeSort fun _ _ _ _ => rfl
  refine ⟨services.filter (·.hasSidecar), (List.mergeSort_perm ..).filter _, ?_, ?_⟩
  · change _ = entries.filter (·.access == .proxy)
    rw [← hmap, List.filter_map]
    rfl
  · have hfiltered := sortByName_filter hsort (·.access == .proxy)
    rw [List.filter_map] at hfiltered
    exact hfiltered

theorem Visits.mem {services : List Service} (h : Visits settings d descriptor services)
    {s : Service} (hs : s ∈ services) : s ∈ d.services :=
  (List.mem_filter.1 (h.perm.mem_iff.1 hs)).1

end Descriptor

namespace CommandLine

open Session

/-! ## Plans -/

/-- The portal of a stack without its services, which do not matter for where it sends a browser. -/
def barePortal (f : StackFile) : Portal := planningPortal f (Descriptor.draft f.settings [])

/-- The end of a plan. -/
def endLine (f : StackFile) : String :=
  s!"end-session: {(barePortal f).endSessionUrlFor .absent none}"

/-- The lines of a plan: the services whose hosts answer, and then the others. -/
def planLines (f : StackFile) (unreachable : List String) (services : List Service) :
    List String :=
  (services.filter (·.host ∉ unreachable)).map (fun s =>
      s!"navigate: {(barePortal f).signOutUrl (Descriptor.entryOf f.settings s)}") ++
    (services.filter (·.host ∈ unreachable)).map (fun s => s!"skip: {s.id}") ++ [endLine f]

/-- Where all hosts answer, nothing but the entries of the services matters. -/
theorem planLines_nil_congr {f : StackFile} {services services' : List Service}
    (h : services.map (Descriptor.entryOf f.settings) =
      services'.map (Descriptor.entryOf f.settings)) :
    planLines f [] services = planLines f [] services' := by
  have hlines : ∀ services : List Service, planLines f [] services =
      (services.map (Descriptor.entryOf f.settings)).map
        (fun e => s!"navigate: {(barePortal f).signOutUrl e}") ++ [endLine f] := by
    simp [planLines]
  rw [hlines, hlines, h]

/-- What the given hosts leave reachable. -/
def reaches (unreachable : List String) (url : String) : Bool :=
  !unreachable.any fun host => Text.occursIn (s!"://{host}.").toList url.toList

theorem staticProber_decides {σ : Type} (unreachable : List String) :
    Portal.Prober.Decides (staticProber unreachable : Portal.Prober σ) (reaches unreachable) :=
  fun _ t => ⟨t, rfl⟩

variable {known unreachable : List String} {f : StackFile} {d : Deployment}
  {descriptor : Descriptor} {services : List Service} {p : Project} {m : Machine}

/-- Among slugs, a service is reachable just where its host is not named. -/
theorem reaches_entryOf {settings : StackCompiler.Settings} {s : Service} (hs : s.Sound known)
    (hslugs : ∀ u ∈ unreachable, Text.isSlug u)
    (hdomain : ¬"://".toList <:+: settings.baseDomain.toList) :
    reaches unreachable (Descriptor.entryOf settings s).url = decide (s.host ∉ unreachable) := by
  have hany : (unreachable.any fun u => Text.occursIn (s!"://{u}.").toList
      (settings.url s.host).toList) ↔ s.host ∈ unreachable := by
    rw [List.any_eq_true]
    constructor
    · rintro ⟨u, hu, hoccurs⟩
      exact (Settings.occursIn_url_iff (hslugs u hu) hs.host_slug hdomain).1 hoccurs ▸ hu
    · exact fun h => ⟨_, h, (Settings.occursIn_url_iff hs.host_slug hs.host_slug hdomain).2 rfl⟩
  change (!unreachable.any fun u => Text.occursIn (s!"://{u}.").toList
    (settings.urlOf (some s.host)).toList) = _
  rw [Settings.urlOf_of_ne_empty settings hs.host_ne_empty, Bool.eq_iff_iff, Bool.not_eq_true',
    ← Bool.not_eq_true, hany, decide_eq_true_iff]

theorem traceLines_eq (hservices : ∀ s ∈ services, s.Sound known)
    (hentries : services.map (Descriptor.entryOf f.settings) = descriptor.workList)
    (hslugs : ∀ u ∈ unreachable, Text.isSlug u)
    (hdomain : ¬"://".toList <:+: f.settings.baseDomain.toList) :
    let portal := planningPortal f descriptor
    traceLines {
      navigations := (portal.workList.filter fun e => reaches unreachable e.url).map
        portal.signOutUrl
      skipped := (portal.workList.filter fun e => !reaches unreachable e.url).map (·.id)
      endSessionUrl := portal.endSessionUrlFor .absent none } =
        planLines f unreachable services := by
  intro portal
  have hreached : portal.workList.filter (fun e => reaches unreachable e.url) =
      (services.filter (·.host ∉ unreachable)).map (Descriptor.entryOf f.settings) := by
    change descriptor.workList.filter _ = _
    rw [← hentries, List.filter_map]
    exact congrArg _ (List.filter_congr fun s hs =>
      reaches_entryOf (hservices s hs) hslugs hdomain)
  have hmissed : portal.workList.filter (fun e => !reaches unreachable e.url) =
      (services.filter (·.host ∈ unreachable)).map (Descriptor.entryOf f.settings) := by
    change descriptor.workList.filter _ = _
    rw [← hentries, List.filter_map]
    refine congrArg _ (List.filter_congr fun s hs => ?_)
    change (!reaches unreachable (Descriptor.entryOf f.settings s).url) = _
    rw [reaches_entryOf (hservices s hs) hslugs hdomain, decide_not, Bool.not_not]
  rw [hreached, hmissed, traceLines, planLines, endLine]
  simp only [List.map_map]
  rfl

/-- What is planned for a sound declaration. -/
def planFor (unreachable : List String) (f : StackFile) (d : Deployment) :
    Machine.Action Report := do
  let descriptor ← Session.ofExcept (Descriptor.generate f.settings d)
  let portal := planningPortal f descriptor
  return { lines := traceLines (← portal.run (staticProber unreachable) (.int 0) none) }

theorem planSignOut_eq (p : Project) (unreachable : List String) : planSignOut p unreachable =
    p.load >>= fun f => Artifacts.resolve f >>= planFor unreachable f := rfl

theorem reads_planSignOut (p : Project) (unreachable : List String) :
    Reads (planSignOut p unreachable) := by
  rw [planSignOut_eq]
  refine (Project.reads_load p).bind fun f => (Artifacts.reads_resolve f).bind fun _ => ?_
  refine (reads_ofExcept _).bind fun descriptor => Reads.bind ?_ fun _ => reads_pure _
  exact Portal.reads_run _ _ _ fun _ => reads_pure _

theorem not_probesDisabled_planningPortal (f : StackFile) (descriptor : Descriptor) :
    ¬(planningPortal f descriptor).probesDisabled := by
  have hproxy : (planningPortal f descriptor).settings.proxy? = some "http://traefik" := rfl
  rw [Portal.probesDisabled, hproxy, Option.isNone_some, Bool.and_false]
  exact Bool.false_ne_true

/-- What is planned for a stack file that resolves and has a descriptor. -/
theorem runFrom_planSignOut (hload : (runFrom m p.load).1 = .ok f) (hresolve : f.resolve = .ok d)
    (hdescriptor : Descriptor.generate f.settings d = .ok descriptor)
    (hslugs : ∀ u ∈ unreachable, Text.isSlug u)
    (hdomain : ¬"://".toList <:+: f.settings.baseDomain.toList)
    (hvisits : Descriptor.Visits f.settings d descriptor services) :
    ∃ log, runFrom m (planSignOut p unreachable) =
      (.ok { lines := planLines f unreachable services }, ⟨m, log⟩) := by
  have hsound := StackFile.sound_of_load hload hresolve
  have hservices : ∀ s ∈ services, s.Sound (Catalog.builtIn.map (·.1)) := fun s hs =>
    hsound.services s (hvisits.mem hs)
  let portal := planningPortal f descriptor
  have hids : (portal.workList.map (·.id)).Nodup := by
    have hsame : portal.workList.map (·.id) = services.map (·.id) := by
      change descriptor.workList.map _ = _
      rw [← hvisits.entries, List.map_map]
      rfl
    rw [hsame, (hvisits.perm.map _).nodup_iff]
    exact hsound.ids_nodup.sublist (List.filter_sublist.map _)
  have hrun := fun log : List Log.Record => portal.exec_run_of_decides (.int 0) none
    (staticProber_decides unreachable) hids (not_probesDisabled_planningPortal f descriptor)
    ⟨m, log⟩
  have hlines := traceLines_eq hservices hvisits.entries hslugs hdomain
  have hresult : (runFrom m (planSignOut p unreachable)).1 =
      .ok { lines := planLines f unreachable services } := by
    obtain ⟨log, hexec⟩ := exec_load_resolve (planFor unreachable) (t := ⟨m, []⟩) hload hresolve
    rw [runFrom_eq, planSignOut_eq, hexec, planFor, exec_bind, exec_ofExcept, hdescriptor]
    dsimp only
    rw [exec_bind_of_ok (Prod.ext (hrun log) rfl), exec_pure, ← hlines]
    rfl
  obtain ⟨log, hreads⟩ := reads_planSignOut p unreachable ⟨m, []⟩
  exact ⟨log, by rw [runFrom_eq, hreads, hresult]⟩

/-! ## Control characters -/

theorem printable_of_known : ∀ id ∈ Catalog.builtIn.map (·.1), Printable id.toList := by decide

variable {c : Char}

/-- Control characters in the address of a host are those of the domain. -/
theorem mem_baseDomain_of_mem_url {settings : StackCompiler.Settings} {host : String}
    (hhost : Printable host.toList) (hc : c.toNat < 32) (h : c ∈ (settings.url host).toList) :
    c ∈ settings.baseDomain.toList := by
  have hscheme : Printable settings.scheme.toList := by
    rcases settings.scheme_eq with h | h <;> rw [h] <;> decide
  have hsigns : Printable "://".toList ∧ Printable ['.'] := by decide
  rw [Settings.toList_url, ← List.singleton_append] at h
  simp only [List.mem_append] at h
  rcases h with (h | h) | h | h | h
  · exact absurd (hscheme c h) (Nat.not_le.2 hc)
  · exact absurd (hsigns.1 c h) (Nat.not_le.2 hc)
  · exact absurd (hhost c h) (Nat.not_le.2 hc)
  · exact absurd (hsigns.2 c h) (Nat.not_le.2 hc)
  · exact h

theorem mem_baseDomain_of_mem_signOutUrl {portal : Portal} {s : Service}
    {settings : StackCompiler.Settings} (hs : s.Sound known) (hunbroken : '\n' ∉ s.host.toList)
    (hc : c.toNat < 32)
    (h : c ∈ (portal.signOutUrl (Descriptor.entryOf settings s)).toList) :
    c ∈ settings.baseDomain.toList := by
  have hfixed : Printable "/oauth2/sign_out?rd=".toList := by decide
  have hurl : (Descriptor.entryOf settings s).url = settings.url s.host :=
    settings.urlOf_of_ne_empty hs.host_ne_empty
  rw [Portal.signOutUrl, hurl, String.toList_append, String.toList_append] at h
  simp only [List.mem_append] at h
  rcases h with (h | h) | h
  · exact mem_baseDomain_of_mem_url (printable_of_isSlug hs.host_slug hunbroken) hc h
  · exact absurd (hfixed c h) (Nat.not_le.2 hc)
  · exact absurd (printable_encode _ c h) (Nat.not_le.2 hc)

theorem toList_endLine (f : StackFile) : (endLine f).toList = "end-session: ".toList ++
    ((f.settings.url keycloakHost).toList ++ "/realms/".toList ++ f.settings.realm.toList ++
      "/protocol/openid-connect/logout?".toList ++
      ("client_id=".toList ++ (Percent.encode "portal").toList) ++
      "&post_logout_redirect_uri=".toList ++
      (Percent.encode (barePortal f).completeUrl).toList) := by
  change ("end-session: " ++ (barePortal f).endSessionUrlFor .absent none).toList = _
  simp only [← String.toList_append]
  rfl

theorem mem_of_mem_endLine (hc : c.toNat < 32) (h : c ∈ (endLine f).toList) :
    c ∈ f.settings.baseDomain.toList ∨ c ∈ f.settings.realm.toList := by
  have hfixed : Printable "end-session: ".toList ∧ Printable "/realms/".toList ∧
      Printable "/protocol/openid-connect/logout?".toList ∧ Printable "client_id=".toList ∧
      Printable "&post_logout_redirect_uri=".toList ∧ Printable keycloakHost.toList := by decide
  obtain ⟨hstart, hrealms, hpath, hclient, hafter, hhost⟩ := hfixed
  rw [toList_endLine] at h
  simp only [List.mem_append] at h
  rcases h with h | (((((h | h) | h) | h) | h | h) | h) | h
  · exact absurd (hstart c h) (Nat.not_le.2 hc)
  · exact .inl (mem_baseDomain_of_mem_url hhost hc h)
  · exact absurd (hrealms c h) (Nat.not_le.2 hc)
  · exact .inr h
  · exact absurd (hpath c h) (Nat.not_le.2 hc)
  · exact absurd (hclient c h) (Nat.not_le.2 hc)
  · exact absurd (printable_encode _ c h) (Nat.not_le.2 hc)
  · exact absurd (hafter c h) (Nat.not_le.2 hc)
  · exact absurd (printable_encode _ c h) (Nat.not_le.2 hc)

/-- The domain is shown at the end of a plan. -/
theorem infix_baseDomain_endLine (f : StackFile) :
    f.settings.baseDomain.toList <:+: (endLine f).toList := by
  rw [toList_endLine, Settings.toList_url]
  exact ⟨"end-session: ".toList ++ f.settings.scheme.toList ++ "://".toList ++
    keycloakHost.toList ++ ['.'], _, by simp only [List.append_assoc, List.singleton_append]; rfl⟩

/-- A control character in a plan is one of the domain, or of the realm in its last line. -/
theorem mem_of_mem_planLines
    (hservices : ∀ s ∈ services, s.Sound (Catalog.builtIn.map (·.1)) ∧ '\n' ∉ s.host.toList)
    (hc : c.toNat < 32) {line : String} (hline : line ∈ planLines f unreachable services)
    (h : c ∈ line.toList) :
    c ∈ f.settings.baseDomain.toList ∨ line = endLine f ∧ c ∈ f.settings.realm.toList := by
  have hwords : Printable "navigate: ".toList ∧ Printable "skip: ".toList := by decide
  simp only [planLines, List.mem_append, List.mem_map, List.mem_filter, List.mem_singleton] at hline
  rcases hline with (⟨s, ⟨hs, -⟩, rfl⟩ | ⟨s, ⟨hs, -⟩, rfl⟩) | rfl
  · have hmem : c ∈ "navigate: ".toList ++
        ((barePortal f).signOutUrl (Descriptor.entryOf f.settings s)).toList := by
      rw [← String.toList_append]
      exact h
    rcases List.mem_append.1 hmem with h | h
    · exact absurd (hwords.1 c h) (Nat.not_le.2 hc)
    · obtain ⟨hsound, hunbroken⟩ := hservices s hs
      exact .inl (mem_baseDomain_of_mem_signOutUrl hsound hunbroken hc h)
  · have hmem : c ∈ "skip: ".toList ++ s.id.toList := by
      rw [← String.toList_append]
      exact h
    rcases List.mem_append.1 hmem with h | h
    · exact absurd (hwords.2 c h) (Nat.not_le.2 hc)
    · exact absurd (printable_of_known _ (hservices s hs).1.known c h) (Nat.not_le.2 hc)
  · exact (mem_of_mem_endLine hc h).imp_right fun h => ⟨rfl, h⟩

/-! ## Command lines -/

def unreachableOption : OptionSpec where
  name := "--unreachable"
  purpose := "Host to treat as unreachable"

def planDescription : Description := Description.root.command "logout-plan" [unreachableOption]

/-- Hosts as they are given to the command. -/
def planArguments (unreachable : List String) : List String :=
  unreachable.flatMap fun u => ["--unreachable", u]

theorem word_unreachable : Arguments.word planDescription.allOptions "--unreachable" =
    .ok { pending := some ("--unreachable", "--unreachable") } := by
  rfl

theorem readAfter_planArguments : ∀ unreachable : List String,
    Arguments.readAfter planDescription.allOptions true none (planArguments unreachable) =
      .ok { options := unreachable.map fun u => ("--unreachable", some u) }
  | [] => rfl
  | u :: us => by
    have hargs : planArguments (u :: us) = "--unreachable" :: u :: planArguments us := rfl
    have hne : ¬"--unreachable" = "--" := by decide
    have hoption : Arguments.isOption "--unreachable" = true := by decide +kernel
    rw [hargs, Arguments.readAfter, if_neg hne, if_pos hoption, word_unreachable]
    dsimp only
    rw [Arguments.readAfter, readAfter_planArguments us]
    rfl

theorem read_logoutPlan (isFile : FileTest) (unreachable : List String) :
    Command.read isFile "logout-plan" (planArguments unreachable) =
      .ok (.logoutPlan unreachable) := by
  let a : Arguments := { options := unreachable.map fun u => ("--unreachable", some u) }
  have hgiven : a.given "--help" = false := by
    have hne : ("--unreachable" == "--help") = false := by decide
    simp only [a, Arguments.given, List.any_map, Function.comp_def, hne]
    exact List.any_eq_false.2 fun _ _ => Bool.false_ne_true
  have hread : planDescription.readOptions (planArguments unreachable) = .ok a := by
    have harguments : planDescription.read (planArguments unreachable) = .ok a := by
      unfold Description.read Arguments.read
      have hgroup : (!planDescription.isGroup) = true := by decide
      rw [hgroup, readAfter_planArguments]
      exact if_neg (by rw [hgiven]; exact Bool.false_ne_true)
    exact bind_eq_ok.2 ⟨a, harguments, rfl⟩
  have hvalues : a.values "--unreachable" = unreachable := by
    simp [a, Arguments.values, List.filterMap_map]
  refine bind_eq_ok.2 ⟨a, hread, ?_⟩
  rw [hvalues]
  rfl

variable {s : Setting} {g : Globals} {args : List String}

/-- A plan can be asked for with any hosts. -/
theorem asks_logoutPlan (s : Setting) (m : Machine) (unreachable : List String) :
    Asks s m ("logout-plan" :: planArguments unreachable) {}
      ⟨.ofString (Globals.projectRoot {} s.environment), Globals.stackName {} s.environment⟩
      (.logoutPlan unreachable) :=
  ⟨_, _, read_globals_of_mem (by decide), read_logoutPlan _ _, rfl⟩

/-! ## Declared services -/

/-- What a command line that asks for a plan prints, and that it changes nothing. -/
theorem Asks.exists_plan (hasks : Asks s m args g p (.logoutPlan unreachable))
    (hslugs : ∀ u ∈ unreachable, Text.isSlug u) (hload : (runFrom m p.load).1 = .ok f)
    (hresolve : f.resolve = .ok d)
    (hdescriptor : Descriptor.generate f.settings d = .ok descriptor)
    (hdomain : ¬"://".toList <:+: f.settings.baseDomain.toList) :
    ∃ services log, Descriptor.Visits f.settings d descriptor services ∧
      run s args m = ({
        exitCode := 0
        output := s.logText g log ++ plain (unlines (planLines f unreachable services)) }, m) := by
  obtain ⟨services, hvisits⟩ := Descriptor.exists_visits_of_generate hdescriptor
  obtain ⟨log, hrun⟩ := runFrom_planSignOut hload hresolve hdescriptor hslugs hdomain hvisits
  exact ⟨services, log, hvisits, hasks.run_eq hrun⟩

theorem describable_of_generate (hload : (runFrom m p.load).1 = .ok f)
    (hresolve : f.resolve = .ok d)
    (hdescriptor : Descriptor.generate f.settings d = .ok descriptor) :
    d.Describable f.settings := by
  obtain ⟨entries, hsort, rfl, hvalid⟩ := Descriptor.generate_eq_ok_iff.1 hdescriptor
  exact (Descriptor.draft_valid_iff (StackFile.wellFormed_of_load hload).settings
    (StackFile.sound_of_load hload hresolve) (Descriptor.perm_of_sortByName hsort)).1 hvalid

/-- How the lines of a plan are printed: nothing is left out unless the domain or the realm has an
escape character, and no line is broken but the last one, by a line feed in the realm. -/
structure Printed (f : StackFile) (lines : List String) : Prop where
  whole : '\x1b' ∉ f.settings.baseDomain.toList → '\x1b' ∉ f.settings.realm.toList →
    plain (unlines lines) = unlines lines
  unbroken : ∀ line ∈ lines, '\n' ∈ line.toList →
    line = endLine f ∧ '\n' ∈ f.settings.realm.toList

theorem printed_planLines
    (hservices : ∀ s ∈ services, s.Sound (Catalog.builtIn.map (·.1)) ∧ '\n' ∉ s.host.toList)
    (hdomain : Text.Unbroken f.settings.baseDomain.toList) :
    Printed f (planLines f unreachable services) where
  whole hbase hrealm := plain_of_not_mem fun hescape => by
    obtain ⟨line, hline, hescape | hescape⟩ := mem_unlines.1 hescape
    · rcases mem_of_mem_planLines hservices (by decide) hline hescape with h | ⟨-, h⟩
      · exact hbase h
      · exact hrealm h
    · exact absurd hescape (by decide)
  unbroken line hline hbroken :=
    (mem_of_mem_planLines hservices (by decide) hline hbroken).resolve_left fun h =>
      absurd (hdomain _ h) (by decide)

/-- A plan is made for a stack that resolves and has a descriptor, in any environment: it names the
services with a sidecar whose hosts are not among the given slugs, then those whose hosts are, both
in the order of the descriptor, and then the end of the session. Other services do not matter, not
even for that order, and neither do slugs that are no host. What a terminal takes for a sequence is
not printed. -/
theorem plans_declared_services (hasks : Asks s m args g p (.logoutPlan unreachable))
    (hslugs : ∀ u ∈ unreachable, Text.isSlug u) (hload : (runFrom m p.load).1 = .ok f)
    (hresolve : f.resolve = .ok d)
    (hdescriptor : Descriptor.generate f.settings d = .ok descriptor)
    (hdomain : ¬"://".toList <:+: f.settings.baseDomain.toList) :
    ∃ services log, Descriptor.Visits f.settings d descriptor services ∧
      run s args m = ({
        exitCode := 0
        output := s.logText g log ++ plain (unlines (planLines f unreachable services)) }, m) ∧
      Printed f (planLines f unreachable services) := by
  obtain ⟨services, log, hvisits, hrun⟩ :=
    hasks.exists_plan hslugs hload hresolve hdescriptor hdomain
  have hdescribable := describable_of_generate hload hresolve hdescriptor
  refine ⟨services, log, hvisits, hrun, printed_planLines (fun s hs => ?_)
    hdescribable.baseDomain_unbroken⟩
  exact ⟨(StackFile.sound_of_load hload hresolve).services s (hvisits.mem hs),
    (hdescribable.services s (hvisits.mem hs)).host_unbroken⟩

/-! ## A stack in production -/

/-- A stack file with two services that have a sidecar and one that is free. In its domain there is a
terminal sequence. -/
def planText : String := unlines [
  "stack:", " deploymentId: demo", " environment: prod", " keycloakRealm: main",
  " baseDomain: \"a\\e[31mb.org\"",
  "services:", " demo:", "  requiredRoles: [dev]",
  " docs:", "  requiredRoles: [dev]", "  group: Tools", " logs:"]

def planFile : StackFile where
  settings := {
    deploymentId := "demo", environment := "prod", baseDomain := "a\x1b[31mb.org", realm := "main" }
  declaration := {
    services := [("demo", { roles := some ["dev"] }),
      ("docs", { roles := some ["dev"], group := some "Tools" }), ("logs", {})] }

def planServices : List Service :=
  [{ id := "demo", displayName := "Demo", host := "demo", access := .proxy, roles := ["dev"] },
    { id := "docs", displayName := "Docs", host := "docs", access := .proxy, roles := ["dev"]
      group := some "Tools" }]

def planDeployment : Deployment where
  environment := "prod"
  roles := ["dev"]
  services := planServices ++
    [{ id := "logs", displayName := "Logs", host := "logs", access := .free }]

theorem load_plan : (runFrom (machineOf planText) sampleProject.load).1 = .ok planFile :=
  load_of_chars (toList_unlines _) (by decide +kernel) (by decide +kernel)

theorem resolve_plan : planFile.resolve = .ok planDeployment := by
  have hresolved : planFile.declaration.resolve "prod" = planDeployment := by
    have hservices : Text.sortById (·.1) planFile.declaration.services =
        planFile.declaration.services := Text.sortById_of_pairwise (by decide +kernel)
    have hroles : Text.sortIds ["dev"] = ["dev"] := Text.sortById_of_pairwise (by decide +kernel)
    change Deployment.mk _ (Text.sortIds ["dev"]) _ _
      ((Text.sortById (·.1) planFile.declaration.services).map _) = _
    rw [hservices, hroles]
    decide +kernel
  have hvalid : planFile.declaration.Valid Catalog.builtIn.ids "prod" := by
    constructor
    all_goals rw [hresolved]
    · have hknown : ∀ s ∈ planDeployment.services,
          s.id ∈ Catalog.builtIn.map (·.1) ∧ Text.isSlug s.id := by decide +kernel
      simpa [Catalog.ids] using hknown
    · decide +kernel
    · decide +kernel
    · decide +kernel
    · rintro listed ⟨⟩
    · exact fun h => absurd rfl h
    · decide +kernel
  exact StackFile.resolve_eq_ok_iff.2 ⟨hvalid, rfl, hresolved.symm⟩

theorem generate_plan :
    ∃ descriptor, Descriptor.generate planFile.settings planDeployment = .ok descriptor := by
  have hwell : planFile.WellFormed := StackFile.wellFormed_of_load load_plan
  have hservices : ∀ s ∈ planDeployment.services,
      ((Text.foldChars (s.group.getD "").toList).length ≤ Text.maxDigits ∧
        (Text.foldChars s.displayName.toList).length ≤ Text.maxDigits) ∧
      '\n' ∉ s.host.toList ∧ s.displayName ≠ "" ∧ s.group ≠ some "" ∧ s.icon ≠ some "" ∧
        ∀ r ∈ s.roles, Text.isSlug r := by decide +kernel
  have hshort : planDeployment.HasShortNumerals := fun s hs =>
    (hservices s hs).1.imp Text.hasShortNumerals_of_length_le Text.hasShortNumerals_of_length_le
  have hdescribable : planDeployment.Describable planFile.settings := by
    refine ⟨by decide, by decide, by decide, by decide, fun s hs => ?_⟩
    obtain ⟨-, hhost, hname, hgroup, hicon, hroles⟩ := hservices s hs
    exact ⟨hhost, hname, hgroup, hicon, hroles⟩
  obtain ⟨descriptor, hgenerate, -⟩ := Descriptor.generate_of_describable hwell.settings
    (StackFile.sound_of_load load_plan resolve_plan) hshort hdescribable
  exact ⟨descriptor, hgenerate⟩

theorem asks_plan (unreachable : List String) :
    Asks sampleSetting (machineOf planText) ("logout-plan" :: planArguments unreachable) {}
      sampleProject (.logoutPlan unreachable) :=
  project_sampleSetting ▸ asks_logoutPlan sampleSetting (machineOf planText) unreachable

theorem not_infix_plan : ¬"://".toList <:+: planFile.settings.baseDomain.toList := by decide

def reportedPlan : List String :=
  ["navigate: http://demo.a\x1b[31mb.org/oauth2/sign_out?rd=" ++
      "http%3A%2F%2Fportal.a%1B%5B31mb.org%2Fauth%2Flogout%3FserviceId%3Ddemo",
    "skip: docs",
    "end-session: http://keycloak.a\x1b[31mb.org/realms/main/protocol/openid-connect/logout" ++
      "?client_id=portal&post_logout_redirect_uri=" ++
      "http%3A%2F%2Fportal.a%1B%5B31mb.org%2Fauth%2Flogout%2Fcomplete"]

/-- One host does not answer, and one is no host. -/
theorem plans_declared_services_production :
    run sampleSetting ("logout-plan" :: planArguments ["docs", "wiki"]) (machineOf planText) =
      ({ exitCode := 0, output := plain (unlines reportedPlan) }, machineOf planText) := by
  obtain ⟨descriptor, hdescriptor⟩ := generate_plan
  obtain ⟨services, log, hvisits, hrun, -⟩ := plans_declared_services
    (asks_plan ["docs", "wiki"]) (by decide +kernel) load_plan resolve_plan hdescriptor
    not_infix_plan
  have hguarded : planDeployment.services.filter (·.hasSidecar) = planServices := by decide +kernel
  have hlines : ∀ services ∈ planServices.permutations',
      planLines planFile ["docs", "wiki"] services = reportedPlan := by decide +kernel
  have hlog : sampleSetting.logText {} log = "" := rfl
  rw [hrun, hlines services (List.mem_permutations'.2 (hguarded ▸ hvisits.perm)), hlog,
    String.empty_append]

/-- Not every plan is printed as it is: a terminal sequence in the domain is left out. -/
theorem plan_printed_otherwise :
    ¬∀ (s : Setting) (m : Machine) (args : List String) (g : Globals) (p : Project)
      (unreachable : List String) (f : StackFile) (d : Deployment) (descriptor : Descriptor),
      Asks s m args g p (.logoutPlan unreachable) → (∀ u ∈ unreachable, Text.isSlug u) →
      (runFrom m p.load).1 = .ok f → f.resolve = .ok d →
      Descriptor.generate f.settings d = .ok descriptor →
      ¬"://".toList <:+: f.settings.baseDomain.toList →
      ∃ services log, Descriptor.Visits f.settings d descriptor services ∧
        (run s args m).1.output =
          s.logText g log ++ unlines (planLines f unreachable services) := by
  intro h
  obtain ⟨descriptor, hdescriptor⟩ := generate_plan
  have hslugs : ∀ u ∈ ([] : List String), Text.isSlug u := List.forall_mem_nil _
  obtain ⟨services, log, hvisits, hrun⟩ := (asks_plan []).exists_plan hslugs load_plan
    resolve_plan hdescriptor not_infix_plan
  obtain ⟨services', log', hvisits', hprinted⟩ := h _ _ _ _ _ _ _ _ _ (asks_plan []) hslugs
    load_plan resolve_plan hdescriptor not_infix_plan
  let lines := planLines planFile [] services
  have hlines : planLines planFile [] services' = lines :=
    planLines_nil_congr (hvisits'.entries.trans hvisits.entries.symm)
  have hlog : ∀ log, sampleSetting.logText {} log = "" := fun _ => rfl
  have hplain : plain (unlines lines) = unlines lines := by
    rw [hrun, hlines] at hprinted
    dsimp only at hprinted
    rwa [hlog, hlog, String.empty_append, String.empty_append] at hprinted
  -- the sequence of the domain is in the last line
  have hsequence : '\x1b' :: "[31m".toList <:+: (unlines lines).toList := by
    have hdomain : '\x1b' :: "[31m".toList <:+: planFile.settings.baseDomain.toList :=
      ⟨['a'], "b.org".toList, rfl⟩
    have hlast : endLine planFile ∈ lines := List.mem_append_right _ (List.mem_singleton_self _)
    exact hdomain.trans ((infix_baseDomain_endLine _).trans (infix_unlines hlast))
  exact plain_ne_of_infix (fun _ => rfl) hsequence hplain

end CommandLine

end StackCompiler
