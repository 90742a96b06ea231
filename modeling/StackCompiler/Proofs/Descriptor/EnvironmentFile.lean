import StackCompiler.Portal.Site
import StackCompiler.Proofs.Artifacts.Compiling
import StackCompiler.Proofs.Artifacts.Writing
import StackCompiler.Proofs.Descriptor.Delivery
import StackCompiler.Proofs.Files.Path
import StackCompiler.Proofs.Portal.Settings

/-!
# Descriptors in environment files

For inline delivery the descriptor is written to an environment file, on one line and without
quotes. The portal that reads the file has the descriptor just where nothing in its text looks like
a comment or like a reference (`Artifacts.portal_reads_iff`); names and descriptions are written by
users, and may contain both.
-/

namespace StackCompiler

open Session

/-! ## The line of the descriptor -/

namespace Descriptor

open Json (IsPlainAscii)

theorem isVariable_descriptor : EnvironmentFile.IsVariable "PORTAL_DESCRIPTOR_JSON" :=
  fun _ => ⟨rfl, rfl⟩

theorem isBreak_of_isPlainAscii {c : Char} (h : IsPlainAscii c) :
    EnvironmentFile.isBreak c = false := by
  have hne : ∀ d : Char, d.toNat < 32 → c ≠ d := by
    rintro d hd rfl
    exact Nat.not_le.2 hd h.1
  simp [EnvironmentFile.isBreak, hne '\n' (by decide), hne '\r' (by decide)]

theorem isValue_of_isPlainAscii {s : String} (h : ∀ c ∈ s.toList, IsPlainAscii c) :
    Environment.isValue s := by
  have hnull : '\x00' ∉ s.toList := fun hmem => absurd (h _ hmem).1 (by decide)
  simpa [Environment.isValue] using hnull

variable {d : Descriptor} {env : Environment} {p : Path} {t : Trail Machine}

/-- The text on one line is in braces. -/
theorem exists_compactText (d : Descriptor) :
    ∃ inner, d.compactText.toList = '\x7b' :: (inner ++ ['\x7d']) := by
  rw [compactText, Json.write, String.toList_ofList]
  exact ⟨_, rfl⟩

theorem strip_compactText (d : Descriptor) :
    Text.strip d.compactText.toList = d.compactText.toList := by
  obtain ⟨inner, hinner⟩ := d.exists_compactText
  rw [hinner]
  exact Text.strip_between (by decide) (by decide) inner

/-- What an environment file with the text on one line is read as. -/
theorem read_line (d : Descriptor) {tree : Tree}
    (hfile : tree.Holds p ("PORTAL_DESCRIPTOR_JSON=" ++ d.compactText ++ "\n")) :
    tree.read p = .ok ("PORTAL_DESCRIPTOR_JSON=" ++ d.compactText ++ "\n") := by
  have hreturn : ∀ c ∈ ("PORTAL_DESCRIPTOR_JSON=" ++ d.compactText ++ "\n").toList, c ≠ '\r' := by
    rw [String.toList_append, String.toList_append, List.forall_mem_append, List.forall_mem_append]
    refine ⟨⟨List.all_iff_forall_prop.1 rfl, fun c hc => ?_⟩, List.all_iff_forall_prop.1 rfl⟩
    exact ne_return_of_isPlainAscii (d.isPlainAscii_compactText c hc)
  rw [hfile.read, Text.plainLineEnds_of_forall_ne hreturn, String.ofList_toList]

theorem load_line (d : Descriptor) (henabled : ¬EnvironmentFile.isDisabled env) :
    EnvironmentFile.load env ("PORTAL_DESCRIPTOR_JSON=" ++ d.compactText ++ "\n") =
      env.inherit1 "PORTAL_DESCRIPTOR_JSON"
        (EnvironmentFile.expand env [] (EnvironmentFile.unquotedValue d.compactText.toList)) := by
  obtain ⟨inner, hinner⟩ := d.exists_compactText
  have hbreak : ∀ c ∈ inner ++ ['\x7d'], EnvironmentFile.isBreak c = false := fun c hc =>
    isBreak_of_isPlainAscii (d.isPlainAscii_compactText c (hinner ▸ List.mem_cons_of_mem _ hc))
  have htext : d.compactText = String.ofList ('\x7b' :: (inner ++ ['\x7d'])) := by
    rw [← hinner, String.ofList_toList]
  have hline := @EnvironmentFile.load_line env _ _ isVariable_descriptor hbreak henabled
  rw [← htext, ← hinner] at hline
  exact hline

/-- What the portal takes from the file for the descriptor. -/
def valueFromFile (env : Environment) (d : Descriptor) : String :=
  EnvironmentFile.expand env [] (EnvironmentFile.unquotedValue d.compactText.toList)

open Portal (Settings)
open Portal.Settings (AwaitsDescriptor ofFile ofEnvironment)

theorem exec_ofFile (d : Descriptor)
    (hfile : t.state.tree.Holds p ("PORTAL_DESCRIPTOR_JSON=" ++ d.compactText ++ "\n"))
    (h : AwaitsDescriptor env) :
    (∃ s t', (ofFile env p).exec t = (.ok s, t') ∧
      s.descriptorText = (some (d.valueFromFile env)).filter (!·.isEmpty)) ∨
    Environment.isValue (d.valueFromFile env) = false ∧
      ∃ e t', (ofFile env p).exec t = (.error e, t') := by
  have hread : (Machine.read p).exec t =
      (.ok ("PORTAL_DESCRIPTOR_JSON=" ++ d.compactText ++ "\n"), t) := by
    rw [Machine.exec_read, d.read_line hfile]
  have hload := d.load_line h.enabled
  rw [Environment.inherit1_eq h.unset] at hload
  rw [ofFile, exec_bind_of_ok hread]
  cases hvalue : Environment.isValue (d.valueFromFile env) with
  | true =>
    left
    obtain ⟨s, hs, htext⟩ := Portal.Settings.ofEnvironment_append h (d.valueFromFile env)
    obtain ⟨t', ht'⟩ := Portal.Settings.load_eq_ok hs t
    refine ⟨s, t', ?_, htext⟩
    rw [valueFromFile] at hvalue
    rw [hvalue] at hload
    rw [hload]
    exact ht'
  | false =>
    right
    rw [valueFromFile] at hvalue
    rw [hvalue] at hload
    rw [hload]
    exact ⟨rfl, _, _, rfl⟩

/-- The portal finds the descriptor in the file at a path, whatever else is in its environment. -/
def FoundIn (d : Descriptor) (p : Path) (t : Trail Machine) : Prop :=
  ∀ env, AwaitsDescriptor env → ∃ s t', (ofFile env p).exec t = (.ok s, t') ∧
    s.descriptorText = some d.compactText ∧
      ∀ path u, ((load s.descriptorText path).exec u).1 = .ok d

theorem foundIn_iff (hd : d.Valid)
    (hfile : t.state.tree.Holds p ("PORTAL_DESCRIPTOR_JSON=" ++ d.compactText ++ "\n")) :
    d.FoundIn p t ↔ EnvironmentFile.Literal d.compactText.toList := by
  constructor
  · intro h
    -- Where variables have short values, a comment or a reference makes the text shorter.
    obtain ⟨s, t', hexec, htext, -⟩ := h _ Portal.Settings.awaitsDescriptor_letterEnvironment
    by_contra hliteral
    have hlt := EnvironmentFile.length_expand_unquotedValue_lt
      Portal.Settings.frugal_letterEnvironment d.strip_compactText hliteral
    rcases d.exec_ofFile hfile Portal.Settings.awaitsDescriptor_letterEnvironment with
      ⟨s', t'', hexec', htext'⟩ | ⟨-, e, t'', hexec'⟩
    · obtain rfl : s = s' := Except.ok.inj (Prod.mk.inj (hexec.symm.trans hexec')).1
      have hvalue : d.valueFromFile Portal.Settings.letterEnvironment = d.compactText :=
        Option.some.inj (Option.filter_eq_some_iff.1 (htext'.symm.trans htext)).1
      rw [valueFromFile] at hvalue
      rw [hvalue] at hlt
      exact Nat.lt_irrefl _ hlt
    · cases (Prod.mk.inj (hexec.symm.trans hexec')).1
  · intro hliteral env henv
    have hvalue : d.valueFromFile env = d.compactText := by
      rw [valueFromFile, EnvironmentFile.expand_unquotedValue d.strip_compactText hliteral,
        String.ofList_toList]
    have hempty : (some d.compactText).filter (!·.isEmpty) = some d.compactText := by
      have hne : d.compactText ≠ "" := d.ne_empty_write .compact
      simpa [Option.filter] using hne
    have hreturn : ∀ c ∈ d.compactText.toList, c ≠ '\r' := fun c hc =>
      ne_return_of_isPlainAscii (d.isPlainAscii_compactText c hc)
    rcases d.exec_ofFile hfile henv with ⟨s, t', hexec, htext⟩ | ⟨hnot, -⟩
    · rw [hvalue, hempty] at htext
      refine ⟨s, t', hexec, htext, ?_⟩
      rw [htext]
      exact (delivers_write hd Json.Layout.spaced_compact hreturn).inline
    · rw [hvalue, isValue_of_isPlainAscii d.isPlainAscii_compactText] at hnot
      cases hnot

end Descriptor

/-! ## Written artifacts -/

namespace Artifacts

open Portal.Settings (AwaitsDescriptor)

variable {hashing : Hashing} {f : StackFile} {secrets : Secrets} {a : Artifacts}
  {directory : Path} {t t' : Trail Machine}

/-- The place of the environment file with the descriptor. -/
def descriptorFile (directory : Path) : Path := (directory.join "portal").join "descriptor.env"

theorem holds_descriptorFile {text : String} {files : List (String × Path)} {realm : String}
    (hinline : a.inlineDescriptor = some text)
    (h : (write realm directory a).exec t = (.ok files, t')) :
    t'.state.tree.Holds (descriptorFile directory) ("PORTAL_DESCRIPTOR_JSON=" ++ text ++ "\n") := by
  -- The file is the last one that is written.
  obtain ⟨others, last, houtputs, hpath, htext⟩ : ∃ others last,
      a.outputs realm directory = others ++ [last] ∧ last.path = descriptorFile directory ∧
        last.text = "PORTAL_DESCRIPTOR_JSON=" ++ text ++ "\n" := by
    unfold outputs
    rw [hinline]
    exact ⟨_, _, rfl, rfl, rfl⟩
  rw [← hpath, ← htext]
  exact holds_of_placeAll (houtputs ▸ placeAll_of_write h)

/-- The text that inline delivery takes is that of the descriptor on one line. -/
theorem inlineDescriptor_eq {docs : Documents} (h : docs.Make hashing f secrets a)
    (hinjection : f.settings.injection = .json) :
    a.inlineDescriptor = some docs.descriptor.compactText := by
  have hmade := h.inline
  rw [StackFile.inlineDescriptor, hinjection] at hmade
  cases htext : docs.descriptor.inlineText with
  | error e =>
    rw [htext] at hmade
    cases hmade
  | ok text =>
    rw [htext] at hmade
    rw [← (Descriptor.inlineText_eq_ok_iff.1 htext).1]
    exact (Except.ok.inj hmade).symm

theorem foundIn_descriptorFile_iff {docs : Documents} {files : List (String × Path)}
    {realm : String} (h : docs.Make hashing f secrets a) (hinjection : f.settings.injection = .json)
    (hwrite : (write realm directory a).exec t = (.ok files, t')) :
    docs.descriptor.FoundIn (descriptorFile directory) t' ↔
      EnvironmentFile.Literal docs.descriptor.compactText.toList := by
  obtain ⟨-, -, -, hvalid⟩ := Descriptor.generate_eq_ok_iff.1 h.descriptor
  exact Descriptor.foundIn_iff hvalid
    (holds_descriptorFile (inlineDescriptor_eq h hinjection) hwrite)

/-- Once the artifacts of a stack with inline delivery are written, the portal finds the descriptor
in its file just where nothing in the text of the descriptor is read as a comment or a reference. -/
theorem portal_reads_iff {σ : Type} {u : Trail σ} {files : List (String × Path)} {realm : String}
    (hinjection : f.settings.injection = .json)
    (hcompile : ((compile hashing f secrets).exec u).1 = .ok a)
    (hwrite : (write realm directory a).exec t = (.ok files, t')) :
    ∃ docs : Documents, docs.Make hashing f secrets a ∧
      a.inlineDescriptor = some docs.descriptor.compactText ∧
      (docs.descriptor.FoundIn (descriptorFile directory) t' ↔
        EnvironmentFile.Literal docs.descriptor.compactText.toList) := by
  obtain ⟨docs, hmake⟩ := exec_compile_eq_ok_iff.1 hcompile
  exact ⟨docs, hmake, inlineDescriptor_eq hmake hinjection,
    foundIn_descriptorFile_iff hmake hinjection hwrite⟩

/-! ## A stack whose service has a description -/

def noteData (note : String) : Data := .record [
  ("stack", .record [
    ("deploymentId", .str "demo"), ("environment", .str "local"), ("keycloakRealm", .str "main"),
    ("descriptorInjection", .str "json")]),
  ("services", .record [("docs", .record [("description", .str note)])])]

def noteFile (note : String) : StackFile where
  settings :=
    { deploymentId := "demo", environment := "local", realm := "main", injection := .json }
  declaration := { services := [("docs", { description := some note })] }

def noteDeployment (note : String) : Deployment where
  environment := "local"
  roles := []
  services := [
    { id := "docs", displayName := "Docs", host := "docs", access := .free,
      description := some note }]

def noteDescriptor (note : String) : Descriptor :=
  { Descriptor.sampleDescriptor with
    services := Descriptor.sampleDescriptor.services.map fun e =>
      { e with description := some note } }

def noteSecrets : Secrets where
  portalClientSecret := "portal-secret"
  clientSecrets := []
  cookieSecrets := []

def noteHashing : Hashing where
  salts _ := []

theorem valid_noteDescriptor (note : String) : (noteDescriptor note).Valid where
  __ := Descriptor.valid_sampleDescriptor
  services := by
    have hservice := Descriptor.valid_sampleDescriptor.services _ (List.mem_singleton.2 rfl)
    exact List.forall_mem_singleton.2 { __ := hservice }

theorem hasShortNumerals_noteDeployment (note : String) :
    (noteDeployment note).HasShortNumerals := by
  have hservice := Descriptor.hasShortNumerals_sampleDeployment (.inl rfl) _
    (List.mem_singleton.2 rfl)
  exact List.forall_mem_singleton.2 hservice

variable {note : String}

/-- The stack is accepted and has artifacts, with none for sidecars. -/
theorem exists_make_noteFile (h : note = "Manual 1" ∨ note = "Manual #1") :
    ∃ (docs : Documents) (a : Artifacts), docs.Make noteHashing (noteFile note) noteSecrets a ∧
      docs.descriptor = noteDescriptor note ∧ a.sidecars = [] := by
  have hresolve : (noteFile note).resolve = .ok (noteDeployment note) := by
    rcases h with rfl | rfl
    all_goals
      exact StackFile.resolve_of_known (by decide +kernel) (by decide +kernel) (by decide +kernel)
  have hrouting : ((noteFile note).routingDocument (noteDeployment note)).toOption.isSome := by
    rcases h with rfl | rfl
    all_goals decide +kernel
  have hrealm : ((noteFile note).realmDocument noteHashing noteSecrets
      (noteDeployment note)).toOption.isSome := by
    rcases h with rfl | rfl
    all_goals decide +kernel
  have hsidecars : Sidecar.buildAll (noteFile note).settings Catalog.builtIn (noteDeployment note)
      noteSecrets = .ok [] := by
    rcases h with rfl | rfl
    all_goals exact toOption_eq_some_iff.1 (by decide +kernel)
  have hdescriptor : Descriptor.generate (noteFile note).settings (noteDeployment note) =
      .ok (noteDescriptor note) := by
    obtain ⟨entries, hsort⟩ :=
      @Descriptor.exists_sortEntries (noteFile note).settings _ (hasShortNumerals_noteDeployment note)
    have hentries : entries = (noteDescriptor note).services := by
      refine List.perm_singleton.1 ((Descriptor.perm_of_sortByName hsort).trans (.of_eq ?_))
      rcases h with rfl | rfl
      all_goals decide +kernel
    refine Descriptor.generate_eq_ok_iff.2 ⟨entries, hsort, ?_, valid_noteDescriptor note⟩
    rw [hentries]
    rcases h with rfl | rfl
    all_goals decide +kernel
  have hinline : (noteFile note).inlineDescriptor (noteDescriptor note) =
      .ok (some (noteDescriptor note).compactText) := by
    have hsize : (noteDescriptor note).compactSize ≤ 65536 := by
      rw [Descriptor.compactSize_eq, Descriptor.compactText, Json.write, String.toList_ofList]
      rcases h with rfl | rfl
      all_goals decide +kernel
    rw [StackFile.inlineDescriptor, noteFile, Descriptor.inlineText_eq_ok_iff.2 ⟨rfl, hsize⟩]
    rfl
  obtain ⟨docs, a, hmake, hnone, hdocs⟩ :=
    exists_make hresolve hrouting hrealm hsidecars hdescriptor hinline
  exact ⟨docs, a, hmake, hdocs, by rw [hmake.sidecar_texts, hnone]; rfl⟩

/-- The directory that the artifacts are written to. -/
def noteDirectory : Path := ⟨"", ["out"]⟩

def emptyMachine : Machine where
  tree := {}
  choices _ := 0

theorem outputs_eq {realm text : String} (hsidecars : a.sidecars = [])
    (hinline : a.inlineDescriptor = some text) (hrealm : realm = "main") :
    a.outputs realm noteDirectory = [
      ⟨"routing", ⟨"", ["out", "traefik", "dynamic.yml"]⟩, a.routing, .everyone⟩,
      ⟨"realm", ⟨"", ["out", "keycloak", "realm-main.json"]⟩, a.realm, .ownerOnly⟩,
      ⟨"descriptor", ⟨"", ["out", "portal", "descriptor.json"]⟩, a.descriptor, .everyone⟩,
      ⟨"descriptor-env", ⟨"", ["out", "portal", "descriptor.env"]⟩,
        "PORTAL_DESCRIPTOR_JSON=" ++ text ++ "\n", .everyone⟩] := by
  have hname : s!"realm-{realm}.json" = "realm-main.json" := by
    rw [hrealm]
    rfl
  unfold outputs
  rw [hname, hsidecars, hinline]
  simp (disch := decide) only [Path.join_name]
  rfl

theorem exists_write_note {text : String} (hsidecars : a.sidecars = [])
    (hinline : a.inlineDescriptor = some text) :
    ∃ files t', (write "main" noteDirectory a).exec ⟨emptyMachine, []⟩ = (.ok files, t') := by
  have hplaced : ∃ tree, placeAll (a.outputs "main" noteDirectory) {} = .ok tree := by
    rw [outputs_eq hsidecars hinline rfl]
    simp only [placeAll, List.foldlM_cons, List.foldlM_nil, Output.placeIn, Path.parent,
      List.dropLast]
    exact ⟨_, rfl⟩
  obtain ⟨tree, hplaced⟩ := hplaced
  obtain ⟨files, t', hexec, -⟩ := exists_write (t := ⟨emptyMachine, []⟩) hplaced
  exact ⟨files, t', hexec⟩

/-- The stack was compiled, and its artifacts were written to a machine without files. -/
def NoteWritten (note : String) (a : Artifacts) (t' : Trail Machine) : Prop :=
  ((compile noteHashing (noteFile note) noteSecrets).exec (⟨(), []⟩ : Trail Unit)).1 = .ok a ∧
    ∃ files, (write "main" noteDirectory a).exec ⟨emptyMachine, []⟩ = (.ok files, t')

theorem exists_noteWritten (h : note = "Manual 1" ∨ note = "Manual #1") :
    ∃ a t', NoteWritten note a t' := by
  obtain ⟨docs, a, hmake, -, hsidecars⟩ := exists_make_noteFile h
  obtain ⟨files, t', hwrite⟩ := exists_write_note hsidecars (inlineDescriptor_eq hmake rfl)
  exact ⟨a, t', exec_compile_eq_ok_iff.2 ⟨docs, hmake⟩, files, hwrite⟩

theorem descriptor_of_make {docs : Documents} (h : note = "Manual 1" ∨ note = "Manual #1")
    (hmake : docs.Make noteHashing (noteFile note) noteSecrets a) :
    docs.descriptor = noteDescriptor note := by
  obtain ⟨docs', b, hmake', hdescriptor, -⟩ := exists_make_noteFile h
  rw [hmake.descriptor_unique hmake', hdescriptor]

/-- Of the two descriptions one is read as it was written. -/
theorem literal_noteDescriptor :
    EnvironmentFile.Literal (noteDescriptor "Manual 1").compactText.toList ∧
      ¬EnvironmentFile.Literal (noteDescriptor "Manual #1").compactText.toList := by
  rw [Descriptor.compactText, Json.write, String.toList_ofList, Descriptor.compactText, Json.write,
    String.toList_ofList]
  constructor
  · exact EnvironmentFile.literal_of_not_mem (by decide +kernel) (by decide +kernel)
  · exact fun h => h.comment ' ' rfl (by decide +kernel)

/-- A number sign after a blank is all that keeps the portal from finding the descriptor. -/
theorem portal_reads_iff_notes :
    (∃ a t, NoteWritten "Manual 1" a t ∧
      (noteDescriptor "Manual 1").FoundIn (descriptorFile noteDirectory) t) ∧
    ∃ a t, NoteWritten "Manual #1" a t ∧
      ¬(noteDescriptor "Manual #1").FoundIn (descriptorFile noteDirectory) t := by
  obtain ⟨a, t, hcompile, files, hwrite⟩ := exists_noteWritten (.inl rfl)
  obtain ⟨b, u, hcompile', files', hwrite'⟩ := exists_noteWritten (.inr rfl)
  obtain ⟨docs, hmake, -, hfound⟩ := portal_reads_iff rfl hcompile hwrite
  obtain ⟨docs', hmake', -, hfound'⟩ := portal_reads_iff rfl hcompile' hwrite'
  rw [descriptor_of_make (.inl rfl) hmake] at hfound
  rw [descriptor_of_make (.inr rfl) hmake'] at hfound'
  obtain ⟨hliteral, hread⟩ := literal_noteDescriptor
  exact ⟨⟨a, t, ⟨hcompile, files, hwrite⟩, hfound.2 hliteral⟩,
    b, u, ⟨hcompile', files', hwrite'⟩, fun h => hread (hfound'.1 h)⟩

/-- Not every descriptor that was written is found by the portal. -/
theorem written_descriptor_not_found :
    ¬∀ source data f hashing secrets (a : Artifacts) directory files (u : Trail Unit) t t',
      StackFile.ofData source data = .ok f → f.settings.injection = .json →
      ((compile hashing f secrets).exec u).1 = .ok a →
      (write f.settings.realm directory a).exec t = (.ok files, t') →
      ∃ docs : Documents, docs.Make hashing f secrets a ∧
        docs.descriptor.FoundIn (descriptorFile directory) t' := by
  intro h
  have hdata : StackFile.ofData "<memory>" (noteData "Manual #1") = .ok (noteFile "Manual #1") :=
    toOption_eq_some_iff.1 (by decide +kernel)
  obtain ⟨a, t', hcompile, files, hwrite⟩ := exists_noteWritten (.inr rfl)
  obtain ⟨docs, hmake, hfound⟩ := h _ _ _ _ _ _ _ _ _ _ _ hdata rfl hcompile hwrite
  rw [foundIn_descriptorFile_iff hmake rfl hwrite, descriptor_of_make (.inr rfl) hmake] at hfound
  exact literal_noteDescriptor.2 hfound

end Artifacts

end StackCompiler
