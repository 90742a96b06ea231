import StackCompiler.Proofs.Artifacts.Acceptance
import StackCompiler.Proofs.Artifacts.Placing
import StackCompiler.Proofs.Artifacts.Recompiling
import StackCompiler.Proofs.CommandLine.Reading

/-!
# Compiling again

Where a project was compiled, it can be compiled again, and then nothing changes but the keys of
users (`CommandLine.recompiling_changes_nothing`): the secrets are complete and are found as they
were written, no output is written over them, and the outputs are put where they were before.
-/

namespace StackCompiler

open Session

/-! ## Outputs beside the files of a project -/

namespace Artifacts

variable {a : Artifacts} {realm : String} {directory : Path} {q : Place}

/-- No output is put where a file is whose name ends as that of a stack file. -/
theorem join_yaml_ne_of_mem_outputs (path : Path) (start : String) {o : Output}
    (ho : o ∈ a.outputs realm directory) :
    Place.ofPath (path.join (start ++ ".yaml")) ≠ .ofPath o.path := by
  obtain ⟨path', start', ending, hending, hpath⟩ := exists_ending_of_mem_outputs ho
  have hdifferent : ∀ e ∈ endings, '/' ∉ e.toList ∧ 2 < e.toList.length ∧
      ¬".yaml".toList <:+ e.toList ∧ ¬e.toList <:+ ".yaml".toList := by decide
  obtain ⟨hslash, hlength, hne, hne'⟩ := hdifferent ending hending
  rw [hpath]
  exact Path.ofPath_join_ne (by decide) hslash (by decide) hlength hne hne' path path' start start'

theorem secretsFile_ne_of_mem_outputs (p : Project) {o : Output}
    (ho : o ∈ a.outputs realm directory) : Place.ofPath p.secretsFile ≠ .ofPath o.path :=
  join_yaml_ne_of_mem_outputs _ ("secrets." ++ p.stack) ho

theorem configFile_ne_of_mem_outputs (p : Project) {o : Output}
    (ho : o ∈ a.outputs realm directory) : Place.ofPath p.configFile ≠ .ofPath o.path :=
  join_yaml_ne_of_mem_outputs _ ("config." ++ p.stack) ho

/-- The outputs with another realm have the same paths, and other texts only for the realm. -/
theorem forall₂_outputs (a : Artifacts) (realm : String) (directory : Path) (text : String) :
    List.Forall₂ (fun o o' => o'.path = o.path ∧ (o'.text = o.text ∨
      o.path = realmFile realm directory ∧ o.text = a.realm ∧ o'.text = text))
      (a.outputs realm directory) ({ a with realm := text }.outputs realm directory) := by
  have hsame : ∀ o : Output, o.path = o.path ∧ (o.text = o.text ∨
      o.path = realmFile realm directory ∧ o.text = a.realm ∧ o.text = text) :=
    fun o => ⟨rfl, .inl rfl⟩
  unfold outputs
  refine List.rel_append (List.rel_append ?_ ?_) (List.forall₂_same.2 fun o _ => hsame o)
  · exact .cons (hsame _) (.cons ⟨rfl, .inr ⟨rfl, rfl, rfl⟩⟩ (.cons (hsame _) .nil))
  · exact List.forall₂_same.2 fun o _ => hsame o

theorem exists_mem_outputs {text : String} {o' : Output}
    (ho' : o' ∈ { a with realm := text }.outputs realm directory) :
    ∃ o ∈ a.outputs realm directory, o.path = o'.path := by
  have hpaths : ({ a with realm := text }.outputs realm directory).map Output.path =
      (a.outputs realm directory).map Output.path := by
    unfold outputs
    simp only [List.map_append, List.map_cons, List.map_nil]
  have hmem : o'.path ∈ (a.outputs realm directory).map Output.path :=
    hpaths ▸ List.mem_map_of_mem ho'
  exact List.mem_map.1 hmem

end Artifacts

namespace CommandLine

variable {s s' : Setting} {m m' : Machine} {args : List String} {g : Globals} {p : Project}
  {output : Option String} {f : StackFile} {d : Deployment}

/-! ## Reading the command line again -/

/-- The directory of a stack file that is read is no file. -/
theorem not_isFile_root {tree : Tree} {text : String} (h : tree.read p.configFile = .ok text) :
    ¬tree.isFile p.root := by
  obtain ⟨place, hwalk, -⟩ := bind_eq_ok.1 h
  obtain ⟨cs, hstart⟩ : ∃ cs, ("config." ++ p.stack ++ ".yaml").toList = 'c' :: cs := by
    rw [String.toList_append, String.toList_append]
    exact ⟨_, rfl⟩
  have hjoin : p.configFile = _ := Path.join_of_ne_slash hstart (by decide) p.root
  have hending : '/' ∉ ".yaml".toList ∧ 2 < ".yaml".toList.length := by decide
  obtain ⟨start, hlast⟩ := Path.exists_getLast?_ofString hending.1 hending.2 ("config." ++ p.stack)
  cases hnames : (Path.ofString ("config." ++ p.stack ++ ".yaml")).names with
  | nil =>
    rw [hnames] at hlast
    cases hlast
  | cons name rest =>
    rw [hjoin, hnames] at hwalk
    exact Tree.not_isFile_of_walk hwalk

/-- The directory below which outputs were put is no file. -/
theorem not_isFile_directory {tree : Tree} {directory : Path}
    (h : tree.Occupied ((directory.join "traefik").join "dynamic.yml")) :
    ¬tree.isFile directory := by
  have hwalk := h.walk
  simp (disch := decide) only [Path.join_name, List.append_assoc] at hwalk
  exact Tree.not_isFile_of_walk hwalk

theorem Asks.again (h : Asks s m args g p (.compile output))
    (henvironment : s'.environment = s.environment) {text : String}
    (hread : m'.tree.read p.configFile = .ok text)
    (houtput : ∀ v, output = some v → ¬m'.tree.isFile (.ofString v)) :
    Asks s' m' args g p (.compile output) := by
  obtain ⟨name, rest, hglobals, hcommand, hproject⟩ := h
  refine ⟨name, rest, read_globals hglobals fun v hv hfile => ?_,
    read_command hcommand fun v hv hfile => ?_, henvironment ▸ hproject⟩
  · refine isFileAt_of_not_isFile hfile ?_
    have hroot : p.root = .ofString v := by
      rw [hproject, Globals.projectRoot, hv, Option.getD_some]
    exact hroot ▸ not_isFile_root hread
  · exact isFileAt_of_not_isFile hfile (houtput v (Command.compile.inj hv))

/-! ## The first run -/

/-- The secrets that completing them puts into the file of a project. -/
def Saves (p : Project) (m : Machine) (secrets : Secrets) : Prop :=
  ∃ f d t, (runFrom m p.load).1 = .ok f ∧ f.resolve = .ok d ∧
    runFrom m (Secrets.ensure p.secretsFile d.guardedIds) = (.ok secrets, t) ∧
      t.state.tree.Holds p.secretsFile (Yaml.write secrets.toData)

/-- What a project was compiled from, and the trees on the way: before, with complete secrets, and
with the outputs. -/
structure Compiled (hashing : Hashing) (p : Project) (output : Option String) (m : Machine)
    (f : StackFile) (d : Deployment) (secrets : Secrets) (docs : Documents) (a : Artifacts)
    (between : Trail Machine) (tree : Tree) : Prop where
  load : (runFrom m p.load).1 = .ok f
  resolve : f.resolve = .ok d
  ensure : runFrom m (Secrets.ensure p.secretsFile d.guardedIds) = (.ok secrets, between)
  make : docs.Make hashing f secrets a
  placed : Artifacts.placeAll (a.outputs f.settings.realm (targetOf p output))
    between.state.tree = .ok tree

/-- What a run that ends well has done. -/
theorem Asks.exists_compiled (h : Asks s m args g p (.compile output))
    (hexit : (run s args m).1.exitCode = 0) : ∃ f d secrets docs a between tree,
      Compiled s.hashing p output m f d secrets docs a between tree ∧
        (run s args m).2.tree = tree := by
  obtain ⟨report, t, hrun, -, hmachine⟩ := h.exists_report hexit
  have hrun' : (writeArtifacts s.hashing p output).exec ⟨m, []⟩ = (.ok report, t) := hrun
  rw [writeArtifacts_eq] at hrun'
  obtain ⟨f, d, log, hload, hresolve, hgenerate⟩ := exists_of_exec_ok hrun'
  obtain ⟨secrets, t₁, hensure, hgenerate⟩ := exec_bind_eq_ok_iff.1 hgenerate
  obtain ⟨a, t₂, hcompile, hgenerate⟩ := exec_bind_eq_ok_iff.1 hgenerate
  obtain ⟨paths, t₃, hwrite, hend⟩ := exec_bind_eq_ok_iff.1 hgenerate
  cases hend
  obtain ⟨docs, hmake⟩ := Artifacts.exec_compile_eq_ok_iff.1 (congrArg Prod.fst hcompile)
  obtain ⟨log', hexec⟩ := Artifacts.reads_compile s.hashing f secrets t₁
  have hcompiled : t₂.state = t₁.state := by
    rw [hexec] at hcompile
    rw [← (Prod.mk.inj hcompile).2]
  obtain ⟨between, hbetween, hensured⟩ :=
    (Secrets.blind_ensure p.secretsFile d.guardedIds).runFrom_of_exec hensure
  refine ⟨f, d, secrets, docs, a, between, t.state.tree, ⟨hload, hresolve, hbetween, hmake, ?_⟩,
    congrArg Machine.tree hmachine⟩
  rw [hensured, ← hcompiled]
  exact Artifacts.placeAll_of_write hwrite

/-- Where every stage succeeds, the run ends well and leaves the outputs. -/
theorem Compiled.exists_report {hashing : Hashing} {secrets : Secrets} {docs : Documents}
    {a : Artifacts} {between : Trail Machine} {tree : Tree}
    (h : Compiled hashing p output m f d secrets docs a between tree) : ∃ report t,
      runFrom m (writeArtifacts hashing p output) = (.ok report, t) ∧ report.exitCode = 0 ∧
        t.state.tree = tree := by
  obtain ⟨log, hexec⟩ := exec_load_resolve (t := ⟨m, []⟩) (generate hashing p output) h.load
    h.resolve
  obtain ⟨t₁, hensure, hbetween⟩ :=
    (Secrets.blind_ensure p.secretsFile d.guardedIds).exec_of_runFrom (t := ⟨m, log⟩) h.ensure
  obtain ⟨log', hcompile⟩ := Artifacts.reads_compile hashing f secrets t₁
  have hmade : (runFrom t₁.state (Artifacts.compile hashing f secrets)).1 = .ok a :=
    Artifacts.exec_compile_eq_ok_iff.2 ⟨docs, h.make⟩
  rw [hmade, hbetween] at hcompile
  obtain ⟨paths, t₃, hwrite, htree⟩ :=
    Artifacts.exists_write (t := ⟨between.state, log'⟩) h.placed
  obtain ⟨report, hgenerate, hreport⟩ := exec_generate hensure hcompile hwrite
  exact ⟨report, t₃, by rw [writeArtifacts_eq, runFrom_eq, hexec, hgenerate], hreport, htree⟩

theorem Asks.exitCode_of_compiled (h : Asks s m args g p (.compile output)) {secrets : Secrets}
    {docs : Documents} {a : Artifacts} {between : Trail Machine} {tree : Tree}
    (hcompiled : Compiled s.hashing p output m f d secrets docs a between tree) :
    (run s args m).1.exitCode = 0 ∧ (run s args m).2.tree = tree := by
  obtain ⟨report, t, hrun, hreport, htree⟩ := hcompiled.exists_report
  rw [h.run_eq hrun]
  exact ⟨hreport, htree⟩

/-! ## The second run -/

/-- The texts are those of realms that differ in the keys of users at most. -/
def SameButKeys (text text' : Option String) : Prop :=
  ∃ doc doc' : Realm.Document, text = some doc.text ∧ text' = some doc'.text ∧
    doc'.withoutKeys = doc.withoutKeys

/-- What compiling again makes of a tree: all files have the texts that they had, but for the realm,
which may have other keys. -/
structure Recompiled (p : Project) (realmFile : Path) (tree tree' : Tree) : Prop where
  secrets : tree'.textAt (.ofPath p.secretsFile) = tree.textAt (.ofPath p.secretsFile)
  others : ∀ place, place ≠ .ofPath realmFile → tree'.textAt place = tree.textAt place
  realm : tree'.textAt (.ofPath realmFile) = tree.textAt (.ofPath realmFile) ∨
    SameButKeys (tree.textAt (.ofPath realmFile)) (tree'.textAt (.ofPath realmFile))

namespace Compiled

variable {hashing hashing' : Hashing} {secrets : Secrets} {docs : Documents} {a : Artifacts}
  {between : Trail Machine} {tree tree' : Tree}
  (h : Compiled hashing p output m f d secrets docs a between tree)

include h

theorem occupied : ∀ o ∈ a.outputs f.settings.realm (targetOf p output), tree.Occupied o.path :=
  Artifacts.occupied_of_placeAll h.placed

theorem textAt (q : Place) : tree.textAt q = Artifacts.lastText q
    (a.outputs f.settings.realm (targetOf p output)) (between.state.tree.textAt q) :=
  Artifacts.textAt_of_placeAll h.placed

theorem textAt_of_forall_ne {q : Place}
    (hq : ∀ o ∈ a.outputs f.settings.realm (targetOf p output), q ≠ .ofPath o.path) :
    tree.textAt q = between.state.tree.textAt q := by
  rw [h.textAt]
  exact Artifacts.lastText_of_forall_ne hq _

/-- The outputs leave the secrets alone. -/
theorem textAt_secretsFile :
    tree.textAt (.ofPath p.secretsFile) = between.state.tree.textAt (.ofPath p.secretsFile) :=
  h.textAt_of_forall_ne fun _ ho => Artifacts.secretsFile_ne_of_mem_outputs p ho

/-- The stack file is left alone where the secrets are not kept in it. -/
theorem read_configFile (hne : Place.ofPath p.configFile ≠ .ofPath p.secretsFile) :
    tree.read p.configFile = m.tree.read p.configFile := by
  have hensured := Secrets.ensuredIn_of_exec_ensure h.ensure
  obtain ⟨text, hread, -⟩ := Project.fst_exec_load_eq_ok_iff.1 h.load
  obtain ⟨raw, hholds, -⟩ := Tree.exists_holds_of_read hread
  have hgrown := hensured.grown.trans (Artifacts.grown_of_placeAll h.placed)
  have htext : tree.textAt (.ofPath p.configFile) = m.tree.textAt (.ofPath p.configFile) := by
    rw [h.textAt_of_forall_ne fun _ ho => Artifacts.configFile_ne_of_mem_outputs p ho, Tree.textAt,
      hensured.file?_of_ne hne, Tree.textAt]
  rw [(hholds.of_grown hgrown htext).read, hholds.read]

/-- The secrets are complete and are found as they were written. -/
theorem exists_stored (hyaml : ∀ secrets, Saves p m secrets →
    Yaml.read (Yaml.write secrets.toData) = .ok secrets.toData) :
    ∃ secrets', Secrets.stored p.secretsFile tree = .ok secrets' ∧ secrets'.Same secrets ∧
      secrets'.isComplete d.guardedIds := by
  have hensured := Secrets.ensuredIn_of_exec_ensure h.ensure
  obtain ⟨raw, secrets', hholds, htext, hsame, hcomplete⟩ := hensured.exists_text fun hholds =>
    hyaml secrets ⟨f, d, between, h.load, h.resolve, h.ensure, hholds⟩
  have hkept : tree.Holds p.secretsFile raw :=
    hholds.of_grown (Artifacts.grown_of_placeAll h.placed) h.textAt_secretsFile
  exact ⟨secrets', by rw [Secrets.stored_eq_of_holds hkept, htext], hsame, hcomplete⟩

/-- The outputs with another realm can be put in their places again. -/
theorem exists_placeAll (realm : Realm.Document) : ∃ tree', Artifacts.placeAll
    ({ a with realm := realm.text }.outputs f.settings.realm (targetOf p output)) tree =
      .ok tree' := by
  refine Artifacts.exists_placeAll fun o' ho' => ?_
  obtain ⟨o, ho, hpath⟩ := Artifacts.exists_mem_outputs ho'
  exact hpath ▸ h.occupied o ho

/-- After that all files have the texts that they had, but for the realm. -/
theorem recompiled {realm : Realm.Document} (hkeys : realm.withoutKeys = docs.realm.withoutKeys)
    (hplaced : Artifacts.placeAll ({ a with realm := realm.text }.outputs f.settings.realm
      (targetOf p output)) tree = .ok tree') :
    Recompiled p (Artifacts.realmFile f.settings.realm (targetOf p output)) tree tree' := by
  let realmFile := Artifacts.realmFile f.settings.realm (targetOf p output)
  have htext : ∀ q, tree'.textAt q = tree.textAt q ∨
      q = .ofPath realmFile ∧ SameButKeys (tree.textAt q) (tree'.textAt q) := by
    intro q
    let R (text text' : Option String) : Prop :=
      text' = text ∨ q = .ofPath realmFile ∧ SameButKeys text text'
    have hfiles := (Artifacts.forall₂_outputs a f.settings.realm (targetOf p output)
      realm.text).imp (S := fun o o' => o'.path = o.path ∧
        (q = .ofPath o.path → R (some o.text) (some o'.text))) fun o o' ⟨hpath, hsame⟩ => by
      refine ⟨hpath, fun hq => ?_⟩
      rcases hsame with hsame | ⟨hrealm, hold, hnew⟩
      · exact .inl (congrArg some hsame)
      · refine .inr ⟨hq.trans (congrArg Place.ofPath hrealm), docs.realm, realm, ?_,
          congrArg some hnew, hkeys⟩
        rw [hold, h.make.realm_text]
    have hlast := Artifacts.rel_lastText hfiles (R := R)
      (show R (tree.textAt q) (tree.textAt q) from .inl rfl)
    rw [← Artifacts.textAt_of_placeAll hplaced] at hlast
    have htwice := Artifacts.lastText_lastText q
      (a.outputs f.settings.realm (targetOf p output)) (between.state.tree.textAt q)
    rw [← h.textAt] at htwice
    rw [htwice] at hlast
    exact hlast
  have hrealm : ⟨"realm", realmFile, a.realm, .ownerOnly⟩ ∈
      a.outputs f.settings.realm (targetOf p output) :=
    List.mem_cons_of_mem _ (List.mem_cons_self ..)
  refine ⟨?_, fun q hq => ?_, (htext _).imp_right And.right⟩
  · apply (htext _).resolve_right
    rintro ⟨hplace, -⟩
    exact Artifacts.secretsFile_ne_of_mem_outputs p hrealm hplace
  · apply (htext q).resolve_right
    rintro ⟨hplace, -⟩
    exact hq hplace

end Compiled

/-! ## Both runs -/

/-- The text of a stack file with a guarded service and a user. -/
def accountText : String :=
  "stack:\n deploymentId: demo\n environment: local\n keycloakRealm: main\n" ++
    "users:\n- username: ann\n  password: winter\n  roles: [dev]\n" ++
    "services:\n demo:\n  requiredRoles: [dev]\n"

theorem load_account : (runFrom (machineOf accountText) sampleProject.load).1 =
    .ok (Artifacts.accountFile "winter") := by
  unfold accountText
  exact load_of_append String.toList_append (by decide +kernel) (by decide +kernel)

theorem outputs_account {a : Artifacts} {sidecar : String}
    (hsidecars : a.sidecars = [("demo", sidecar)]) (hinline : a.inlineDescriptor = none) :
    a.outputs "main" (targetOf sampleProject none) =
      [⟨"routing", ⟨"", ["generated", "local", "traefik", "dynamic.yml"]⟩, a.routing, .everyone⟩,
       ⟨"realm", ⟨"", ["generated", "local", "keycloak", "realm-main.json"]⟩, a.realm, .ownerOnly⟩,
       ⟨"descriptor", ⟨"", ["generated", "local", "portal", "descriptor.json"]⟩, a.descriptor,
         .everyone⟩,
       ⟨"sidecar:demo", ⟨"", ["generated", "local", "oauth2-proxy", "demo.env"]⟩, sidecar,
         .ownerOnly⟩] := by
  have hdirectory : targetOf sampleProject none = ⟨"", ["generated", "local"]⟩ := by
    show (sampleProject.root.join "generated").join "local" = _
    simp (disch := decide) only [Path.join_name]
    rfl
  rw [Artifacts.outputs, hsidecars, hinline, hdirectory, List.map_singleton]
  simp (disch := decide) only [Path.join_name]
  rfl

/-- The outputs of the stack are put below a directory that was not there. -/
theorem exists_placeAll_account {a : Artifacts} {sidecar text : String} {tree : Tree}
    (hsidecars : a.sidecars = [("demo", sidecar)]) (hinline : a.inlineDescriptor = none)
    (hputs : (machineOf accountText).tree.Puts sampleProject.secretsFile text tree) :
    ∃ tree', Artifacts.placeAll (a.outputs "main" (targetOf sampleProject none)) tree =
      .ok tree' := by
  obtain ⟨made, f, hmade, -, -, rfl⟩ := hputs
  rw [secretsFile_sampleProject] at hmade ⊢
  rw [outputs_account hsidecars hinline]
  cases hmade
  unfold Artifacts.placeAll Artifacts.Output.placeIn
  simp only [List.foldlM_cons, List.foldlM_nil]
  exact ⟨_, rfl⟩

/-- The stack is compiled where there are no secrets yet. -/
theorem exists_compiled_account : ∃ secrets docs a between tree,
    Compiled sampleSetting.hashing sampleProject none (machineOf accountText)
      (Artifacts.accountFile "winter") Artifacts.accountDeployment secrets docs a between tree ∧
    Yaml.read (Yaml.write secrets.toData) = .ok secrets.toData := by
  have hresolve := Artifacts.resolve_accountFile (.inl rfl : "winter" = "winter" ∨ _)
  have hids : ∀ id ∈ Artifacts.accountDeployment.guardedIds, Text.isSlug id := by decide +kernel
  obtain ⟨secrets, t, hensure, hsupplied, hputs⟩ := exists_ensure_of_text accountText hids
  -- no generator refuses them
  have hfit : FitsIterations sampleSetting.hashing.iterations := fitsIterations_default
  have hrealm : ((Artifacts.accountFile "winter").realmDocument sampleSetting.hashing secrets
      Artifacts.accountDeployment).toOption.isSome := by
    obtain ⟨realm, hrealm⟩ := StackFile.exists_realmDocument hfit hresolve hsupplied
    rw [hrealm]
    rfl
  obtain ⟨sidecars, hsidecars⟩ := StackFile.exists_sidecars hresolve hsupplied
  obtain ⟨descriptor, hdescriptor⟩ := exists_eq_ok_of_toOption_isSome
    (show (Descriptor.generate (Artifacts.accountFile "winter").settings
      Artifacts.accountDeployment).toOption.isSome by decide +kernel)
  obtain ⟨docs, a, hmake, -⟩ := Artifacts.exists_make hresolve (by decide +kernel) hrealm hsidecars
    hdescriptor rfl
  -- there is one sidecar, and nothing is in the way of its file and of the other outputs
  have hpolicies : Artifacts.accountDeployment.policies.map (·.id) = ["demo"] := by decide +kernel
  have hnames : a.sidecars.map (·.1) = ["demo"] := by
    rw [hmake.sidecar_texts, Sidecar.buildAll_eq_ok hmake.sidecars,
      Except.ok.inj (hmake.deployment.symm.trans hresolve), List.map_map, List.map_map]
    exact hpolicies
  obtain ⟨⟨id, sidecar⟩, hsidecar, rfl⟩ := List.map_eq_singleton_iff.1 hnames
  obtain ⟨tree, hplaced⟩ := exists_placeAll_account hsidecar (Except.ok.inj hmake.inline).symm hputs
  exact ⟨secrets, docs, a, t, tree, ⟨load_account, hresolve, hensure, hmake, hplaced⟩,
    hsupplied.sound.read_toData fun id hid => Secrets.keyFits_of_isSlug (hids id hid)⟩

end CommandLine

end StackCompiler
