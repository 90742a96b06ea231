import Mathlib
import StackCompiler.Proofs.CommandLine.Reading
import StackCompiler.Proofs.Descriptor.Generation

/-!
# What failing commands leave behind

Where the declaration of a project does not load or breaks a rule, no command that needs it changes
anything, and what is wrong with it is what validating prints. Where a generator fails after that,
the file with the secrets is as completing them leaves it, and no other file changes
(`CommandLine.failures_leave_files`).
-/

namespace StackCompiler.CommandLine

open Session

variable {s : Setting} {m : Machine} {p : Project} {f : StackFile} {d : Deployment} {e : Failure}
  {output : Option String} {g : Globals} {args : List String} {secrets : Secrets}
  {t : Trail Machine}

/-! ## Validating -/

/-- What validating prints about broken rules: a line for each of them, and how many there are. -/
def violationLines (vs : List Violation) : List String :=
  vs.map (fun v => s!"  - [{v.code}] {v.message} (at {v.path})") ++
    [s!"{vs.length} problem(s) found"]

/-- The command line prints broken rules, after its log if that is asked for, and ends with a code
that says so. -/
def Prints (s : Setting) (args : List String) (m : Machine) (g : Globals) (vs : List Violation) :
    Prop :=
  (run s args m).1.exitCode = 1 ∧ ∃ log, (run s args m).1.output =
    s.logText g log ++ plain (unlines (violationLines vs))

/-- What validating reports about a stack file. -/
def checkReport (f : StackFile) : Report :=
  match f.violations with
  | [] => { lines := [okLine (f.declaration.resolve f.settings.environment)] }
  | vs => { lines := violationLines vs, exitCode := 1 }

theorem exec_checkStack (hload : (runFrom m p.load).1 = .ok f) :
    ∃ log, runFrom m (checkStack p) = (.ok (checkReport f), ⟨m, log⟩) := by
  obtain ⟨log, hexec⟩ := exec_load p ⟨m, []⟩
  obtain ⟨log', hchecked⟩ := Artifacts.exec_check f (⟨m, log⟩ : Trail Machine)
  rw [hload] at hexec
  refine ⟨log', ?_⟩
  rw [runFrom_eq, checkStack, exec_bind_of_ok hexec, exec_bind_of_ok hchecked, checkReport]
  cases f.violations <;> rfl

theorem exec_checkStack_of_error (hload : (runFrom m p.load).1 = .error e) :
    ∃ log, runFrom m (checkStack p) = (.error e, ⟨m, log⟩) := by
  obtain ⟨log, hexec⟩ := exec_load p ⟨m, []⟩
  rw [hload] at hexec
  exact ⟨log, by rw [runFrom_eq, checkStack, exec_bind_of_error hexec]⟩

theorem resolve_of_violations (hviolations : f.violations ≠ []) :
    f.resolve = .error (.violations .deployment f.violations) := by
  rw [StackFile.resolve]
  split
  · exact absurd ‹_› hviolations
  · rfl

theorem checkReport_of_violations (hviolations : f.violations ≠ []) :
    checkReport f = { lines := violationLines f.violations, exitCode := 1 } := by
  rw [checkReport]
  split
  · exact absurd ‹_› hviolations
  · rfl

/-- A stack file has a deployment where validating reports no fault. -/
theorem exitCode_checkReport_iff : (checkReport f).exitCode = 0 ↔ ∃ d, f.resolve = .ok d := by
  by_cases hviolations : f.violations = []
  · refine iff_of_true ?_ ⟨f.declaration.resolve f.settings.environment, ?_⟩
    · rw [checkReport, hviolations]
    · rw [StackFile.resolve, hviolations]
  · rw [checkReport_of_violations hviolations, resolve_of_violations hviolations]
    simp

/-- Validating ends well just where a deployment results. -/
theorem exitCode_validate_iff (h : Asks s m args g p .validate) :
    (run s args m).1.exitCode = 0 ↔
      ∃ f d, (runFrom m p.load).1 = .ok f ∧ f.resolve = .ok d := by
  cases hload : (runFrom m p.load).1 with
  | error e =>
    obtain ⟨log, hrun⟩ := exec_checkStack_of_error hload
    rw [(h.fails hrun).exitCode]
    simp
  | ok f =>
    obtain ⟨log, hrun⟩ := exec_checkStack hload
    rw [h.run_eq hrun]
    refine exitCode_checkReport_iff.trans ?_
    simp

theorem prints_of_violations (h : Asks s m args g p .validate)
    (hload : (runFrom m p.load).1 = .ok f) (hviolations : f.violations ≠ []) :
    Prints s args m g f.violations := by
  obtain ⟨log, hrun⟩ := exec_checkStack hload
  rw [checkReport_of_violations hviolations] at hrun
  have heq := h.run_eq hrun
  exact ⟨by rw [heq]; rfl, log, by rw [heq]; rfl⟩

/-! ## Failing early -/

section

variable {command : Command} {rest : StackFile → Deployment → Machine.Action Report}
  (hask : Asks s m args g p command)
  (hcommand : command.run s.hashing p = p.load >>= fun f => Artifacts.resolve f >>= rest f)

include hask hcommand

/-- A command that loads the declaration first changes nothing if it does not load. -/
theorem Asks.fails_of_load_error (hload : (runFrom m p.load).1 = .error e) :
    Fails s args m e m := by
  obtain ⟨log, hexec⟩ := exec_of_load_error (t := ⟨m, []⟩) rest hload
  rw [← hcommand] at hexec
  exact hask.fails hexec

/-- Nor does it change anything if the declaration has no deployment. -/
theorem Asks.fails_of_resolve_error (hload : (runFrom m p.load).1 = .ok f)
    (hresolve : f.resolve = .error e) : Fails s args m e m := by
  obtain ⟨log, hexec⟩ := exec_of_resolve_error (t := ⟨m, []⟩) rest hload hresolve
  rw [← hcommand] at hexec
  exact hask.fails hexec

end

/-! ## Failing generators -/

/-- A generator that fails comes after the secrets were completed, and nothing after it. -/
theorem exec_writeArtifacts_of_error (output : Option String)
    (hload : (runFrom m p.load).1 = .ok f)
    (hresolve : f.resolve = .ok d)
    (hensure : runFrom m (Secrets.ensure p.secretsFile d.guardedIds) = (.ok secrets, t))
    (hcompile : (runFrom t.state (Artifacts.compile s.hashing f secrets)).1 = .error e) :
    ∃ t', runFrom m (writeArtifacts s.hashing p output) = (.error e, t') ∧
      t'.state = t.state := by
  obtain ⟨log, hexec⟩ := exec_load_resolve (t := ⟨m, []⟩) (generate s.hashing p output) hload
    hresolve
  obtain ⟨t₁, hensured, hstate⟩ :=
    (Secrets.blind_ensure p.secretsFile d.guardedIds).exec_of_runFrom (t := ⟨m, log⟩) hensure
  obtain ⟨log', hcompiled⟩ := Artifacts.reads_compile s.hashing f secrets t₁
  rw [hstate, hcompile] at hcompiled
  refine ⟨⟨t.state, log'⟩, ?_, rfl⟩
  rw [runFrom_eq, writeArtifacts_eq, hexec, generate, exec_bind_of_ok hensured,
    exec_bind_of_error hcompiled]

/-! ## The commands together -/

/-- What becomes of the files of a project when its secrets were completed: no file changes but the
one with the secrets, which then has the text that was written of them. -/
structure OnlySecrets (p : Project) (secrets : Secrets) (m m' : Machine) : Prop where
  others : ∀ place, place ≠ .ofPath p.secretsFile → m'.tree.file? place = m.tree.file? place
  written : m'.tree = m.tree ∨ m'.tree.Holds p.secretsFile (Yaml.write secrets.toData)

theorem onlySecrets_of_ensure
    (hensure : runFrom m (Secrets.ensure p.secretsFile d.guardedIds) = (.ok secrets, t)) :
    OnlySecrets p secrets m t.state := by
  have hensured := Secrets.ensuredIn_of_exec_ensure hensure
  refine ⟨fun place hplace => hensured.file?_of_ne hplace, ?_⟩
  rcases hensured.tree with ⟨htree, -⟩ | hputs
  · exact .inl htree
  · exact .inr hputs.holds

/-- The text of a stack file with a service whose group is empty, which no descriptor can show. -/
def sampleText : String :=
  "stack:\n  deploymentId: demo\n  environment: local\n  keycloakRealm: main\n" ++
    "services:\n  docs:\n    group: ''\n"

/-- The text of a stack file with a user without a password. -/
def brokenText : String :=
  "stack:\n  deploymentId: demo\n  environment: local\n  keycloakRealm: main\n" ++
    "users:\n  - username: ann\n"

theorem isFileAt_here : isFileAt (machineOf sampleText).tree "." = .ok false := by
  have hfree : (machineOf sampleText).tree.isFile {} = false := rfl
  rw [isFileAt, if_neg (by decide), Path.ofString_dot, hfree, Bool.and_false]

theorem asks_validate (text : String) :
    Asks sampleSetting (machineOf text) ["validate"] {} sampleProject .validate :=
  asks_of_read (by decide) rfl fun _ h => by cases h

theorem asks_ensure (text : String) :
    Asks sampleSetting (machineOf text) ["secrets", "ensure"] {} sampleProject .ensureSecrets :=
  asks_of_read (by decide) (by cbv) fun _ h => by cases h

theorem asks_compile_here :
    Asks sampleSetting (machineOf sampleText) ["compile", "--output", "."] {} sampleProject
      (.compile (some ".")) := by
  refine asks_of_read (by decide) (by cbv) fun v hv => ?_
  cases hv
  exact isFileAt_here

/-- Completing the secrets of the stack puts them into a file that was not there. -/
theorem exists_ensure_sample : ∃ secrets t,
    runFrom (machineOf sampleText) (Secrets.ensure sampleProject.secretsFile
      (Descriptor.sampleDeployment (some "")).guardedIds) = (.ok secrets, t) ∧
      (machineOf sampleText).tree.Puts sampleProject.secretsFile (Yaml.write secrets.toData)
        t.state.tree := by
  have hids : (Descriptor.sampleDeployment (some "")).guardedIds = [] := by cbv
  rw [hids]
  obtain ⟨secrets, t, hensure, -, hputs⟩ :=
    exists_ensure_of_text sampleText fun id hid => absurd hid List.not_mem_nil
  exact ⟨secrets, t, hensure, hputs⟩

theorem load_sample : (runFrom (machineOf sampleText) sampleProject.load).1 =
    .ok (Descriptor.sampleFile (some "")) := by
  unfold sampleText
  exact load_of_append rfl (by cbv) (by decide +kernel)

/-- No artifacts result, as there is no descriptor. -/
theorem exists_compile_error_sample (secrets : Secrets) (m : Machine) : ∃ e,
    (runFrom m (Artifacts.compile sampleSetting.hashing (Descriptor.sampleFile (some ""))
      secrets)).1 = .error e := by
  cases hcompile : (runFrom m (Artifacts.compile sampleSetting.hashing
      (Descriptor.sampleFile (some "")) secrets)).1 with
  | error e => exact ⟨e, rfl⟩
  | ok a =>
    obtain ⟨docs, hmake⟩ := Artifacts.exec_compile_eq_ok_iff.1 hcompile
    have hresolve := @Descriptor.resolve_sampleFile (some "") (.inr rfl)
    obtain ⟨problems, herror⟩ := Descriptor.generate_of_not_describable
      (StackFile.wellFormed_of_load load_sample).settings
      (StackFile.sound_of_load load_sample hresolve)
      (Descriptor.hasShortNumerals_sampleDeployment (.inr rfl))
      Descriptor.not_describable_sampleDeployment
    have hdescriptor := hmake.descriptor
    rw [Except.ok.inj (hmake.deployment.symm.trans hresolve), herror] at hdescriptor
    cases hdescriptor

def brokenFile : StackFile where
  settings := { deploymentId := "demo", environment := "local", realm := "main" }
  declaration := { users := [{ username := "ann" }] }

theorem load_broken : (runFrom (machineOf brokenText) sampleProject.load).1 = .ok brokenFile := by
  unfold brokenText
  exact load_of_append rfl (by cbv) (by decide +kernel)

end StackCompiler.CommandLine
