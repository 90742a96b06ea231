import StackCompiler.Proofs.CommandLine.Stages
import StackCompiler.Proofs.Files.Path
import StackCompiler.Proofs.Secrets.Store

/-!
# Reading a command line again

A command line is read as before where the paths that it names for directories are still no files
(`CommandLine.read_globals`, `CommandLine.read_command`).
-/

namespace StackCompiler.CommandLine

open Session

variable {isFile isFile' : FileTest} {args rest : List String} {name : String} {g : Globals}
  {output : Option String} {d : Description} {a : Arguments}

/-! ## Directories -/

theorem directory_eq_ok (h : d.directory isFile a name = .ok output)
    (hfree : ∀ v, output = some v → isFile v = .ok false → isFile' v = .ok false) :
    d.directory isFile' a name = .ok output := by
  unfold Description.directory at h ⊢
  cases hvalue : a.value? name with
  | none =>
    rw [hvalue] at h
    exact h
  | some v =>
    rw [hvalue] at h
    dsimp only at h ⊢
    cases hfile : isFile v with
    | error e =>
      rw [hfile] at h
      cases h
    | ok found =>
      rw [hfile] at h
      cases found with
      | true => cases h
      | false =>
        rw [hfree v (Except.ok.inj h).symm hfile]
        exact h

/-! ## Command lines -/

theorem eq_of_choose_eq_ok {again : List String → Except Halt Unit} {chosen : String × List String}
    (h : d.choose again rest = .ok chosen) (again' : List String → Except Halt Unit) :
    d.choose again' rest = .ok chosen := by
  unfold Description.choose at h ⊢
  cases rest with
  | nil => cases h
  | cons first more =>
    dsimp only at h ⊢
    by_cases hknown : (d.commands.map (·.1)).contains first
    · rw [if_pos hknown] at h ⊢
      exact h
    · rw [if_neg hknown] at h
      obtain ⟨_, -, h⟩ := bind_eq_ok.1 h
      cases h

/-- No command has the name of an option. -/
theorem not_isOption_of_mem : ∀ name ∈ Description.root.commands.map (·.1),
    name ≠ "--" ∧ ¬Arguments.isOption name := by
  decide +kernel

/-- A command line that starts with the name of a command has no options before it. -/
theorem read_globals_of_mem (hname : name ∈ Description.root.commands.map (·.1)) :
    Globals.read isFile (name :: rest) = .ok ({}, name, rest) := by
  obtain ⟨hne, hoption⟩ := not_isOption_of_mem name hname
  let a : Arguments := { rest := name :: rest }
  have hread : Arguments.read Description.root.allOptions (!Description.root.isGroup)
      (name :: rest) = .ok a := by
    have hgroup : (!Description.root.isGroup) = false := by decide
    rw [Arguments.read, Arguments.readAfter, if_neg hne, if_neg hoption, hgroup]
    rfl
  have hgroup : Description.root.readGroup (name :: rest) = .ok a := by
    unfold Description.readGroup Description.read
    rw [hread]
    rfl
  have hoptions : Globals.readOptions isFile (name :: rest) = .ok ({}, name :: rest) :=
    bind_eq_ok.2 ⟨a, hgroup, rfl⟩
  have hchoose (again : List String → Except Halt Unit) :
      Description.root.choose again (name :: rest) = .ok (name, rest) :=
    if_pos (List.contains_iff_mem.2 hname)
  exact bind_eq_ok.2 ⟨_, hoptions, bind_eq_ok.2 ⟨_, hchoose _, rfl⟩⟩

/-- The options before the name of the command are read again. -/
theorem read_globals (h : Globals.read isFile args = .ok (g, name, rest))
    (hfree : ∀ v, g.root = some v → isFile v = .ok false → isFile' v = .ok false) :
    Globals.read isFile' args = .ok (g, name, rest) := by
  obtain ⟨⟨g', more⟩, hoptions, h⟩ := bind_eq_ok.1 h
  obtain ⟨⟨name', rest'⟩, hchoose, h⟩ := bind_eq_ok.1 h
  cases h
  obtain ⟨a, ha, hoptions⟩ := bind_eq_ok.1 hoptions
  obtain ⟨root, hroot, hoptions⟩ := bind_eq_ok.1 hoptions
  cases hoptions
  have hdirectory := directory_eq_ok hroot hfree
  refine bind_eq_ok.2 ⟨_, bind_eq_ok.2 ⟨a, ha, bind_eq_ok.2 ⟨root, hdirectory, rfl⟩⟩, ?_⟩
  exact bind_eq_ok.2 ⟨_, eq_of_choose_eq_ok hchoose _, rfl⟩

/-- The command is read again; only the one that writes artifacts names a directory. -/
theorem read_command {command : Command} (h : Command.read isFile name rest = .ok command)
    (hfree : ∀ v, command = .compile (some v) → isFile v = .ok false → isFile' v = .ok false) :
    Command.read isFile' name rest = .ok command := by
  by_cases hname : name = "compile"
  · subst hname
    obtain ⟨a, ha, h⟩ := bind_eq_ok.1 h
    obtain ⟨output, houtput, h⟩ := bind_eq_ok.1 h
    by_cases hrest : a.rest.isEmpty
    · rw [if_pos hrest] at h
      cases h
      have hdirectory := directory_eq_ok houtput fun v hv => hfree v (congrArg Command.compile hv)
      refine bind_eq_ok.2 ⟨a, ha, bind_eq_ok.2 ⟨output, hdirectory, ?_⟩⟩
      rw [if_pos hrest]
      rfl
    · rw [if_neg hrest] at h
      cases h
  · rw [← h]
    unfold Command.read
    dsimp only
    split
    · rfl
    · exact absurd rfl hname
    all_goals rfl

/-- A written path that may be passed to an option for directories may be passed again while it
does not lead to a file. -/
theorem isFileAt_of_not_isFile {t t' : Tree} {v : String} (h : isFileAt t v = .ok false)
    (hfree : ¬t'.isFile (.ofString v)) : isFileAt t' v = .ok false := by
  unfold isFileAt at h ⊢
  split at h
  · cases h
  · rename_i hnull
    rw [if_neg hnull, Bool.not_eq_true _ |>.mp hfree, Bool.and_false]

/-! ## A working directory with one stack file -/

/-- A working directory with just one stack file. -/
def machineOf (text : String) : Machine where
  tree := { files := [(["config.local.yaml"], { text })] }
  choices n := n

def sampleSetting : Setting where
  hashing := { salts _ := [] }

/-- The project of the working directory. -/
def sampleProject : Project := ⟨{}, "local"⟩

theorem configFile_sampleProject : sampleProject.configFile = ⟨"", ["config.local.yaml"]⟩ :=
  Path.join_name (by decide) (by decide) _

theorem secretsFile_sampleProject :
    sampleProject.secretsFile = ⟨"", [".secrets", "secrets.local.yaml"]⟩ := by
  show (sampleProject.root.join ".secrets").join "secrets.local.yaml" = _
  simp (disch := decide) only [Path.join_name]
  rfl

/-- Completing secrets generates all of them, and puts them into a file that was not there. -/
theorem exists_ensure_of_text (text : String) {ids : List String}
    (hids : ∀ id ∈ ids, Text.isSlug id) : ∃ secrets t,
      runFrom (machineOf text) (Secrets.ensure sampleProject.secretsFile ids) = (.ok secrets, t) ∧
        secrets.Supplied ids ids ∧
        (machineOf text).tree.Puts sampleProject.secretsFile (Yaml.write secrets.toData)
          t.state.tree := by
  have hnone : (machineOf text).tree.contains sampleProject.secretsFile = .ok false := by
    rw [secretsFile_sampleProject]
    rfl
  have hwritable : (machineOf text).tree.Writable sampleProject.secretsFile := by
    rw [secretsFile_sampleProject]
    exact ⟨_, _, rfl, rfl⟩
  obtain ⟨secrets, -, t, hensure, -⟩ := (Secrets.stores_start hnone hwritable).exec_ensure
    (t := ⟨machineOf text, []⟩) fun id hid => Secrets.keyFits_of_isSlug (hids id hid)
  refine ⟨secrets, t, hensure, ?_, ?_⟩
  · exact (Secrets.History.start hnone).supplied_of_ensure (t := ⟨machineOf text, []⟩)
      (congrArg Prod.fst hensure)
  · exact (Secrets.ensuredIn_of_exec_ensure hensure).puts_of_contains hnone

/-- A stack file of written characters is read by its tokens. -/
theorem load_of_chars {text : String} {cs : List Char} {f : StackFile} (htext : text.toList = cs)
    (hwritten : cs.all Yaml.isWrittenChar)
    (hfile : ((Yaml.readTokens cs).toOption.bind fun data => if data.isVacant then none
      else (StackFile.ofData sampleProject.configFile.text data).toOption) = some f) :
    (runFrom (machineOf text) sampleProject.load).1 = .ok f := by
  have hchars : ∀ c ∈ cs, Yaml.isWrittenChar c := List.all_eq_true.1 hwritten
  obtain rfl : text = String.ofList cs := by rw [← htext, String.ofList_toList]
  obtain ⟨data, hdata, hfile⟩ := Option.bind_eq_some_iff.1 hfile
  have hread : Yaml.read (String.ofList cs) = .ok data := by
    rw [Yaml.read_eq hchars, toOption_eq_some_iff.1 hdata]
  refine Project.fst_exec_load_eq_ok_iff.2 ⟨String.ofList cs, ?_, ?_⟩
  · rw [configFile_sampleProject]
    change Except.ok (String.ofList (Text.plainLineEnds (String.ofList cs).toList)) = _
    rw [htext, Yaml.plainLineEnds_of_written hchars]
  · have hvacant : ¬data.isVacant := fun h => by
      rw [if_pos h] at hfile
      cases hfile
    rw [if_neg hvacant] at hfile
    rw [Project.ofText, Secrets.documentOf, hread]
    dsimp only
    rw [if_neg hvacant]
    exact toOption_eq_some_iff.1 hfile

theorem load_of_append {a b : String} {cs : List Char} {f : StackFile} (ha : a.toList = cs)
    (hwritten : (cs ++ b.toList).all Yaml.isWrittenChar)
    (hfile : ((Yaml.readTokens (cs ++ b.toList)).toOption.bind fun data =>
      if data.isVacant then none
      else (StackFile.ofData sampleProject.configFile.text data).toOption) = some f) :
    (runFrom (machineOf (a ++ b)) sampleProject.load).1 = .ok f :=
  load_of_chars (by rw [String.toList_append, ha]) hwritten hfile

/-- Nothing but the working directory is named. -/
theorem project_sampleSetting : (⟨.ofString (Globals.projectRoot {} sampleSetting.environment),
    Globals.stackName {} sampleSetting.environment⟩ : Project) = sampleProject := by
  change (⟨Path.ofString ".", "local"⟩ : Project) = _
  rw [Path.ofString_dot]
  rfl

/-- A command line whose directories are no files asks for what it names. -/
theorem asks_of_read {m : Machine} {command : Command}
    (hname : name ∈ Description.root.commands.map (·.1))
    (hcommand : (Command.read (fun _ => .ok false) name rest).toOption = some command)
    (hfree : ∀ v, command = .compile (some v) → isFileAt m.tree v = .ok false) :
    Asks sampleSetting m (name :: rest) {} sampleProject command :=
  ⟨name, rest, read_globals_of_mem hname,
    read_command (toOption_eq_some_iff.1 hcommand) fun v hv _ => hfree v hv,
    project_sampleSetting.symm⟩

theorem asks_compile (text : String) :
    Asks sampleSetting (machineOf text) ["compile"] {} sampleProject (.compile none) :=
  asks_of_read (by decide) rfl fun _ h => by cases h

end StackCompiler.CommandLine
