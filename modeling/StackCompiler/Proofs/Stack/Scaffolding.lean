import StackCompiler.Artifacts
import StackCompiler.Proofs.Deployment.Rules
import StackCompiler.Proofs.Files.Below
import StackCompiler.Proofs.Files.Growing
import StackCompiler.Proofs.Stack.Project
import StackCompiler.Proofs.Yaml.PageDocuments

/-!
# Scaffolded stack files

The example that a project starts with is read as it was written, whatever the name of its stack
(`Project.ofText_example`). It says a stack file if that name is a slug, and is rejected otherwise
(`Project.ofData_example`); that stack file breaks no rule but lacks the passwords of its users
(`Project.violations_exampleFile`). So a scaffolded stack file is loaded just if its stack is named
by a slug (`Project.load_scaffold`).
-/

namespace StackCompiler

open Session

namespace Project

variable {p : Project} {t : Tree} {m : Trail Machine}

/-! ## The text of the example -/

section Pages

open Yaml (Entries Items Leaf Page)

/-- A list of texts. -/
def textItems (first : String) : List String → Items
  | [] => .one (.leaf (.text first))
  | next :: rest => .cons (.leaf (.text first)) (textItems next rest)

def textEntries (first : String × String) : List (String × String) → Entries
  | [] => .one first.1 (.leaf (.text first.2))
  | next :: rest => .cons first.1 (.leaf (.text first.2)) (textEntries next rest)

/-- A service with the roles that it demands. -/
def servicePage (displayName first : String) (roles : List String) (rest : Entries) : Page :=
  .group (.cons "displayName" (.leaf (.text displayName))
    (.cons "requiredRoles" (.items (textItems first roles)) rest))

def userEntries (username : String) (roles : Page) : Entries :=
  .cons "username" (.leaf (.text username)) <|
  .cons "password" (.leaf (.text "")) <|
  .one "roles" roles

def settingsEntries (stack : String) : Entries :=
  .cons "deploymentId" (.leaf (.text stack)) <|
  .cons "baseDomain" (.leaf (.text "localhost")) <|
  .cons "environment" (.leaf (.text "local")) <|
  .cons "keycloakRealm" (.leaf (.text "stackgen")) <|
  .cons "keycloakDevMode" (.leaf (.flag true)) <|
  .cons "useHttps" (.leaf (.flag false)) <|
  .one "descriptorInjection" (.leaf (.text "file"))

def serviceEntries : Entries :=
  .cons "demo" (servicePage "Demo App" "admin" ["dev"] <| textEntries ("group", "apps")
    [("icon", "rocket"), ("description", "Demo application with OAuth2 protection")]) <|
  .cons "docs" (.group <| textEntries ("group", "docs")
    [("icon", "book"), ("description", "Public documentation")]) <|
  .cons "dozzle" (servicePage "Container Logs" "admin" [] <| textEntries ("group", "admin")
    [("icon", "terminal")]) <|
  .one "logs" (servicePage "Logs" "admin" [] <| textEntries ("group", "admin")
    [("icon", "chart")])

def credentialEntries : Entries :=
  .cons "keycloakAdminUsername" (.leaf (.text "admin")) <|
  .cons "keycloakAdminPassword" (.leaf (.text "")) <|
  .one "users" <| .items <|
    .cons (.group (userEntries "admin" (.items (textItems "admin" ["dev"])))) <|
    .one (.group (userEntries "dev" (.leaf (.text "dev"))))

/-- The example, section by section. -/
def exampleEntries (stack : String) : Entries :=
  .cons "stack" (.group (settingsEntries stack)) <|
  .cons "roles" (.items (textItems "admin" ["dev"])) <|
  .cons "services" (.group serviceEntries) <|
  .one "credentials" (.group credentialEntries)

theorem map_data_exampleEntries (stack : String) :
    Data.map (exampleEntries stack).data = example_ stack := rfl

theorem fits_exampleEntries (stack : String) : (exampleEntries stack).Fits := by
  simp only [exampleEntries, settingsEntries, serviceEntries, credentialEntries, servicePage,
    userEntries, textItems, textEntries, Entries.Fits, Page.Fits, Items.Fits, Yaml.Item.Fits,
    and_true, Yaml.isShortKey_iff]
  repeat' apply And.intro
  all_goals decide

theorem distinct_exampleEntries (stack : String) : (exampleEntries stack).Distinct := by
  simp [exampleEntries, settingsEntries, serviceEntries, credentialEntries, servicePage,
    userEntries, textItems, textEntries, Entries.Distinct, Page.Distinct, Items.Distinct,
    Yaml.Item.Distinct, Entries.keys]

theorem levels_exampleEntries (stack : String) :
    (exampleEntries stack).levels < Yaml.maxLevels := by
  change 4 < Yaml.maxLevels
  decide

/-- The example is read as it was written. -/
theorem ofText_example (p : Project) :
    p.ofText (Yaml.write (example_ p.stack)) =
      StackFile.ofData p.configFile.text (example_ p.stack) := by
  have hread := Yaml.Entries.read_write (levels_exampleEntries p.stack)
    (fits_exampleEntries p.stack) (distinct_exampleEntries p.stack)
  rw [map_data_exampleEntries] at hread
  rw [ofText, Secrets.documentOf, hread]
  rfl

end Pages

/-! ## The stack file of the example -/

/-- What the example declares. -/
def exampleDeclaration : Declaration where
  roles := some ["admin", "dev"]
  users := [
    { username := "admin", password := some "", roles := ["admin", "dev"] },
    { username := "dev", password := some "", roles := ["dev"] }]
  services := [
    ("demo", {
      displayName := some "Demo App"
      roles := some ["admin", "dev"]
      group := some "apps"
      icon := some "rocket"
      description := some "Demo application with OAuth2 protection" }),
    ("docs", {
      group := some "docs"
      icon := some "book"
      description := some "Public documentation" }),
    ("dozzle", {
      displayName := some "Container Logs"
      roles := some ["admin"]
      group := some "admin"
      icon := some "terminal" }),
    ("logs", {
      displayName := some "Logs"
      roles := some ["admin"]
      group := some "admin"
      icon := some "chart" })]

/-- The stack file that the example says. -/
def exampleFile (stack : String) : StackFile where
  settings :=
    { deploymentId := stack, environment := "local", realm := "stackgen", realmDevMode := true }
  credentials := { adminPassword := some "" }
  declaration := exampleDeclaration

/-- The section of the settings in the example. -/
def exampleSettings (stack : String) : Decode.Fields := [
  (.str "deploymentId", .str stack),
  (.str "baseDomain", .str "localhost"),
  (.str "environment", .str "local"),
  (.str "keycloakRealm", .str "stackgen"),
  (.str "keycloakDevMode", .bool true),
  (.str "useHttps", .bool false),
  (.str "descriptorInjection", .str "file")]

/-- The only issue that the settings of the example can have. -/
def slugIssue (stack : String) : Issue :=
  ⟨[.key "deploymentId"], .refused s!"'{stack}' must be a lowercase slug"⟩

theorem decode_exampleSettings (stack : String) : Settings.decode (exampleSettings stack) =
    if Text.isSlug stack then .ok (exampleFile stack).settings
    else .rejected [slugIssue stack] := by
  have hid : Decode.required (exampleSettings stack) ⟨"deploymentId", "deployment_id"⟩
      Settings.slug = (Settings.slug (.str stack)).under (.key "deploymentId") := rfl
  have hslug : Settings.slug (.str stack) = if Text.isSlug stack then .ok stack
      else .fail (.refused s!"'{stack}' must be a lowercase slug") := rfl
  rw [Settings.decode, Settings.decodeFields, hid, hslug]
  by_cases h : Text.isSlug stack
  · rw [if_pos h, if_pos h]
    rfl
  · rw [if_neg h, if_neg h]
    rfl

theorem ofData_example (source stack : String) : StackFile.ofData source (example_ stack) =
    if Text.isSlug stack then .ok (exampleFile stack)
    else .error (.stackFileRejected source [slugIssue stack]) := by
  have hdecode : StackFile.ofData source (example_ stack) =
      (Settings.decode (exampleSettings stack)).toExcept (.stackFileRejected source) >>=
        fun settings => .ok { exampleFile stack with settings } := rfl
  rw [hdecode, decode_exampleSettings]
  by_cases h : Text.isSlug stack
  · rw [if_pos h, if_pos h]
    rfl
  · rw [if_neg h, if_neg h]
    rfl

theorem valid_exampleDeclaration : exampleDeclaration.Valid Catalog.builtIn.ids "local" := by
  have hservices : (exampleDeclaration.resolve "local").services =
      exampleDeclaration.services.map fun e => e.2.resolve e.1 := by
    change (Text.sortById (·.1) exampleDeclaration.services).map _ = _
    rw [Text.sortById_of_pairwise (by decide +kernel)]
  refine ⟨?_, ?_, ?_, ?_, ?_, fun _ => rfl, ?_⟩
  · rw [hservices]
    simp only [Catalog.ids, Text.mem_sortPlain]
    decide +kernel
  · rw [hservices]
    decide +kernel
  · rw [hservices]
    decide +kernel
  · rw [hservices]
    decide +kernel
  · rintro listed ⟨⟩
    rw [hservices]
    decide +kernel
  · decide +kernel

/-- The example keeps all rules on declarations; only the passwords of its users are missing. -/
theorem violations_exampleFile (stack : String) : (exampleFile stack).declaration.violations
      Catalog.builtIn.ids (exampleFile stack).settings.environment = [] ∧
    (exampleFile stack).declaration.passwordViolations =
      [.missingPassword 0 "admin", .missingPassword 1 "dev"] := by
  have hpasswords : exampleDeclaration.passwordViolations =
      [.missingPassword 0 "admin", .missingPassword 1 "dev"] := by decide
  exact ⟨Declaration.violations_eq_nil_iff.2 valid_exampleDeclaration, hpasswords⟩

/-! ## Scaffolding -/

/-- A stack whose name can be part of a file name, in a directory without its stack file. -/
structure IsFresh (p : Project) (t : Tree) : Prop where
  slash : '/' ∉ p.stack.toList
  null : '\x00' ∉ p.stack.toList
  directory : t.IsDirectoryAt p.root
  not_file : ¬t.isFile p.root
  absent : t.contains p.configFile = .ok false

/-- The name of the stack file. -/
def configName (stack : String) : String := "config." ++ stack ++ ".yaml"

theorem isName_configName {stack : String} (hslash : '/' ∉ stack.toList) :
    Path.IsName (configName stack) :=
  Path.isName_append _ _ (by simp [hslash]) (by decide) (by decide)

theorem configFile_eq (hslash : '/' ∉ p.stack.toList) :
    p.configFile = ⟨p.root.root, p.root.names ++ [configName p.stack]⟩ :=
  Path.join_name (isName_configName hslash).1 (isName_configName hslash).2.1 p.root

theorem null_not_mem_configName {stack : String} (h : '\x00' ∉ stack.toList) :
    '\x00' ∉ (configName stack).toList := by simp [configName, h]

/-- In such a directory the stack file can be written. -/
theorem IsFresh.exists_write (h : p.IsFresh t) (text : String) :
    ∃ t', t.write p.configFile text = .ok t' := by
  have hpath := configFile_eq h.slash
  obtain ⟨place, hwalk, hplace⟩ := Tree.exists_walk_of_contains h.directory h.not_file
    (null_not_mem_configName h.null) (hpath ▸ h.absent)
  rw [Tree.isPresent, Bool.or_eq_false_iff] at hplace
  rw [hpath, Tree.write_eq, hwalk]
  exact ⟨_, if_neg (Bool.eq_false_iff.1 hplace.2)⟩

/-- Whether there is a stack file in the working directory. -/
theorem contains_configFile_here {stack : String} (hslash : '/' ∉ stack.toList)
    (hnull : '\x00' ∉ stack.toList)
    (hlength : (configName stack).utf8ByteSize ≤ Tree.maxNameBytes)
    (hhere : t.file? Place.here = none) :
    t.contains (configFile ⟨{}, stack⟩) = .ok (t.isPresent [configName stack]) := by
  have htext : Path.text ⟨"", [] ++ [configName stack]⟩ = configName stack := by simp [Path.text]
  have hshort : ¬(Tree.maxPathBytes < (configName stack).utf8ByteSize ∨
      Tree.maxNameBytes < (configName stack).utf8ByteSize) := by
    unfold Tree.maxPathBytes
    unfold Tree.maxNameBytes at *
    omega
  have hwalk := @Tree.walk_append t Place.here "" (configName stack) [] rfl rfl (by simp [hhere])
    (null_not_mem_configName hnull)
  rw [htext, if_neg hshort] at hwalk
  have hpath : configFile ⟨{}, stack⟩ = ⟨"", [] ++ [configName stack]⟩ := configFile_eq hslash
  rw [hpath, Tree.contains, hwalk, Place.step_of_ne (isName_configName hslash).2.2]
  rfl

theorem isFresh_here {stack : String} (hslash : '/' ∉ stack.toList) (hnull : '\x00' ∉ stack.toList)
    (hlength : (configName stack).utf8ByteSize ≤ Tree.maxNameBytes) : IsFresh ⟨{}, stack⟩ {} := by
  have hwalk : Tree.walk {} {} = .ok Place.here := rfl
  have hfile : Tree.isFile {} {} = false := by rw [Tree.isFile, hwalk]; rfl
  refine ⟨hslash, hnull, ⟨Place.here, hwalk, rfl⟩, Bool.eq_false_iff.1 hfile, ?_⟩
  rw [contains_configFile_here hslash hnull hlength rfl]
  obtain ⟨hname, -, hback⟩ := isName_configName hslash
  have hroot : configName stack ≠ "/" := fun heq => hname (heq ▸ by decide)
  simp [Tree.isPresent, Tree.file?, Tree.isDirectory, Place.isAbove, Place.root, hback, hroot]

/-- What scaffolding says. -/
def said (message : String) : Log.Record := ⟨.info, logger, message, none, none, none⟩

theorem exec_scaffold_of_write {tree : Tree}
    (habsent : m.state.tree.contains p.configFile = .ok false)
    (hwrite : m.state.tree.write p.configFile (Yaml.write (example_ p.stack)) = .ok tree) :
    (p.scaffold false).exec m = (.ok p.configFile, {
      state := { m.state with tree }
      log := m.log ++ [said s!"Wrote example config to {p.configFile.text}"] }) := by
  have hfound : (Machine.exists? p.configFile).exec m = (.ok false, m) := by
    rw [Machine.exec_exists?, habsent]
  have hchange : (Machine.write p.configFile (Yaml.write (example_ p.stack))).exec m =
      (.ok (), { m with state := { m.state with tree } }) := by
    rw [Machine.write, Machine.exec_changeTree, hwrite]
  rw [scaffold, exec_bind_of_ok hfound]
  exact exec_bind_of_ok hchange

theorem exec_scaffold_of_contains (h : m.state.tree.contains p.configFile = .ok true) :
    (p.scaffold false).exec m = (.ok p.configFile, { m with
      log := m.log ++ [said s!"Skipping existing config file: {p.configFile.text}"] }) := by
  have hfound : (Machine.exists? p.configFile).exec m = (.ok true, m) := by
    rw [Machine.exec_exists?, h]
  rw [scaffold, exec_bind_of_ok hfound]
  rfl

/-- A scaffolded stack file is loaded as the example says it. -/
theorem IsFresh.exists_load (h : p.IsFresh m.state.tree) :
    ∃ m', (p.scaffold false).exec m = (.ok p.configFile, m') ∧
      (p.load.exec m').1 = if Text.isSlug p.stack then .ok (exampleFile p.stack)
        else .error (.stackFileRejected p.configFile.text [slugIssue p.stack]) := by
  obtain ⟨tree, hwrite⟩ := h.exists_write (Yaml.write (example_ p.stack))
  obtain ⟨m', hscaffold, hholds⟩ : ∃ m', (p.scaffold false).exec m = (.ok p.configFile, m') ∧
      m'.state.tree.Holds p.configFile (Yaml.write (example_ p.stack)) :=
    ⟨_, exec_scaffold_of_write h.absent hwrite, Tree.holds_of_write hwrite⟩
  have hplain := Yaml.Entries.plainLineEnds_write (levels_exampleEntries p.stack)
    (fits_exampleEntries p.stack)
  rw [map_data_exampleEntries] at hplain
  have hbind : ∀ text, (Except.ok text >>= p.ofText) = p.ofText text := fun _ => rfl
  refine ⟨m', hscaffold, ?_⟩
  rw [fst_exec_load hholds.contains, hholds.read, hplain, hbind, ofText_example, ofData_example]

/-- Where there is no stack file, scaffolding one succeeds. It is loaded if its stack is named by a
slug, with that name as the id of the deployment, and breaks no rule but that its users lack
passwords; under any other name it is rejected for that name. A stack file that is there is left as
it is. -/
theorem load_scaffold (p : Project) (m : Trail Machine) :
    (p.IsFresh m.state.tree → ∃ m', (p.scaffold false).exec m = (.ok p.configFile, m') ∧
      (Text.isSlug p.stack → ∃ f, (p.load.exec m').1 = .ok f ∧
        f.settings.deploymentId = p.stack ∧
        f.declaration.violations Catalog.builtIn.ids f.settings.environment = [] ∧
        f.declaration.passwordViolations =
          [.missingPassword 0 "admin", .missingPassword 1 "dev"]) ∧
      (¬Text.isSlug p.stack → (p.load.exec m').1 =
        .error (.stackFileRejected p.configFile.text [slugIssue p.stack]))) ∧
    (m.state.tree.contains p.configFile = .ok true → ∃ m',
      (p.scaffold false).exec m = (.ok p.configFile, m') ∧ m'.state = m.state) := by
  refine ⟨fun hfresh => ?_, fun hfound => ⟨_, exec_scaffold_of_contains hfound, rfl⟩⟩
  obtain ⟨m', hscaffold, hload⟩ := hfresh.exists_load
  refine ⟨m', hscaffold, fun hslug => ?_, fun hslug => ?_⟩
  · rw [if_pos hslug] at hload
    exact ⟨_, hload, rfl, violations_exampleFile p.stack⟩
  · rw [if_neg hslug] at hload
    exact hload

/-- Nothing but the working directory. -/
def emptyTrail : Trail Machine := { state := { tree := {}, choices := fun _ => 0 } }

/-- A stack file that was written by hand. -/
def writtenTrail : Trail Machine :=
  { state := {
      tree := { files := [(["config.demo.yaml"], { text := "stack:\n  deploymentId: demo\n" })] }
      choices := fun _ => 0 } }

theorem load_scaffold_demo :
    (∃ m' f, (scaffold ⟨{}, "demo"⟩ false).exec emptyTrail = (.ok (configFile ⟨{}, "demo"⟩), m') ∧
      ((load ⟨{}, "demo"⟩).exec m').1 = .ok f ∧ f.settings.deploymentId = "demo" ∧
      f.declaration.violations Catalog.builtIn.ids f.settings.environment = [] ∧
      f.declaration.passwordViolations =
        [.missingPassword 0 "admin", .missingPassword 1 "dev"]) ∧
    (∃ m', (scaffold ⟨{}, "Demo"⟩ false).exec emptyTrail = (.ok (configFile ⟨{}, "Demo"⟩), m') ∧
      ((load ⟨{}, "Demo"⟩).exec m').1 =
        .error (.stackFileRejected (configFile ⟨{}, "Demo"⟩).text [slugIssue "Demo"])) ∧
    ∃ m', (scaffold ⟨{}, "demo"⟩ false).exec writtenTrail =
      (.ok (configFile ⟨{}, "demo"⟩), m') ∧ m'.state = writtenTrail.state := by
  refine ⟨?_, ?_, ?_⟩
  · obtain ⟨m', hscaffold, hslug, -⟩ := (load_scaffold ⟨{}, "demo"⟩ emptyTrail).1
      (isFresh_here (by decide) (by decide) (by decide))
    obtain ⟨f, hf⟩ := hslug (by decide)
    exact ⟨m', f, hscaffold, hf⟩
  · obtain ⟨m', hscaffold, -, hother⟩ := (load_scaffold ⟨{}, "Demo"⟩ emptyTrail).1
      (isFresh_here (by decide) (by decide) (by decide))
    exact ⟨m', hscaffold, hother (by decide)⟩
  · refine (load_scaffold ⟨{}, "demo"⟩ writtenTrail).2 ?_
    rw [contains_configFile_here (by decide) (by decide) (by decide) rfl]
    rfl

/-- A stack need not be named by a slug to have its stack file scaffolded, but to have it loaded. -/
theorem not_load_scaffold_upper : IsFresh ⟨{}, "Demo"⟩ emptyTrail.state.tree ∧ "Demo" ≠ "" ∧
    ¬∃ m' f, (scaffold ⟨{}, "Demo"⟩ false).exec emptyTrail =
      (.ok (configFile ⟨{}, "Demo"⟩), m') ∧ ((load ⟨{}, "Demo"⟩).exec m').1 = .ok f := by
  have hfresh : IsFresh ⟨{}, "Demo"⟩ emptyTrail.state.tree :=
    isFresh_here (by decide) (by decide) (by decide)
  refine ⟨hfresh, by decide, ?_⟩
  rintro ⟨m', f, hscaffold, hload⟩
  obtain ⟨m'', hscaffold', hload'⟩ := hfresh.exists_load
  rw [hscaffold'] at hscaffold
  cases hscaffold
  rw [hload', if_neg (by decide)] at hload
  cases hload

end Project
end StackCompiler
