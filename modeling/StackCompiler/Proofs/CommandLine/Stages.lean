import StackCompiler.CommandLine.Run
import StackCompiler.Proofs.Artifacts.Compiling
import StackCompiler.Proofs.Secrets.Completing
import StackCompiler.Proofs.Stack.Project

/-!
# The stages of commands

`CommandLine.Asks` says which command a command line asks for, and on which project. What the
commands that need a sound declaration do is put together from their stages: the declaration is
loaded and checked (`CommandLine.exec_load_resolve`), then missing secrets are generated, and then
the artifacts (`CommandLine.generate`).
-/

namespace StackCompiler.CommandLine

open Session

/-- A command line asks for a command on a project, with some options before the name of the
command. -/
def Asks (s : Setting) (m : Machine) (args : List String) (g : Globals) (p : Project)
    (command : Command) : Prop :=
  ∃ name rest, Globals.read (isFileAt m.tree) args = .ok (g, name, rest) ∧
    Command.read (isFileAt m.tree) name rest = .ok command ∧
      p = ⟨.ofString (g.projectRoot s.environment), g.stackName s.environment⟩

variable {s : Setting} {m : Machine} {args : List String} {g : Globals} {p : Project}
  {command : Command} {t : Trail Machine} {f : StackFile} {d : Deployment} {e : Failure}

/-! ## Outcomes -/

theorem Asks.run_eq (h : Asks s m args g p command) {result : Except Failure Report}
    (hrun : runFrom m (command.run s.hashing p) = (result, t)) :
    run s args m = (resultOutcome s g t.log result, t.state) := by
  obtain ⟨name, rest, hglobals, hcommand, rfl⟩ := h
  rw [run, hglobals]
  dsimp only
  rw [hcommand]
  dsimp only
  rw [hrun]

/-- The command line ends with a failure, and leaves the machine in some state. -/
structure Fails (s : Setting) (args : List String) (m : Machine) (e : Failure) (m' : Machine) :
    Prop where
  exitCode : (run s args m).1.exitCode = 1
  failure : (run s args m).1.failure = some e
  machine : (run s args m).2 = m'

theorem Asks.fails (h : Asks s m args g p command)
    (hrun : runFrom m (command.run s.hashing p) = (.error e, t)) : Fails s args m e t.state := by
  have heq := h.run_eq hrun
  exact ⟨by rw [heq]; rfl, by rw [heq]; rfl, by rw [heq]⟩

/-- A command whose report has no fault of its own ends well just where it does not fail. -/
theorem Asks.exists_report (h : Asks s m args g p command) (hexit : (run s args m).1.exitCode = 0) :
    ∃ report t, runFrom m (command.run s.hashing p) = (.ok report, t) ∧ report.exitCode = 0 ∧
      (run s args m).2 = t.state := by
  rcases hrun : runFrom m (command.run s.hashing p) with ⟨e | report, t⟩
  · have hfails := (h.fails hrun).exitCode
    rw [hexit] at hfails
    cases hfails
  · have heq := h.run_eq hrun
    rw [heq] at hexit ⊢
    exact ⟨report, t, rfl, hexit, rfl⟩

/-! ## Loading and checking -/

section

variable {α : Type} (rest : StackFile → Deployment → Machine.Action α)

theorem exec_load (p : Project) (t : Trail Machine) :
    ∃ log, p.load.exec t = ((runFrom t.state p.load).1, ⟨t.state, log⟩) := p.reads_load t

/-- Nothing is done after a declaration that does not load. -/
theorem exec_of_load_error (hload : (runFrom t.state p.load).1 = .error e) :
    ∃ log, (p.load >>= fun f => Artifacts.resolve f >>= rest f).exec t =
      (.error e, ⟨t.state, log⟩) := by
  obtain ⟨log, hexec⟩ := exec_load p t
  rw [hload] at hexec
  exact ⟨log, exec_bind_of_error hexec⟩

/-- Nothing is done after a declaration that breaks a rule. -/
theorem exec_of_resolve_error (hload : (runFrom t.state p.load).1 = .ok f)
    (hresolve : f.resolve = .error e) :
    ∃ log, (p.load >>= fun f => Artifacts.resolve f >>= rest f).exec t =
      (.error e, ⟨t.state, log⟩) := by
  obtain ⟨log, hexec⟩ := exec_load p t
  obtain ⟨log', hchecked⟩ := Artifacts.exec_resolve f (⟨t.state, log⟩ : Trail Machine)
  rw [hload] at hexec
  rw [hresolve] at hchecked
  exact ⟨log', by rw [exec_bind_of_ok hexec, exec_bind_of_error hchecked]⟩

/-- A sound declaration is loaded and checked before anything else is done. -/
theorem exec_load_resolve (hload : (runFrom t.state p.load).1 = .ok f)
    (hresolve : f.resolve = .ok d) :
    ∃ log, (p.load >>= fun f => Artifacts.resolve f >>= rest f).exec t =
      (rest f d).exec ⟨t.state, log⟩ := by
  obtain ⟨log, hexec⟩ := exec_load p t
  obtain ⟨log', hchecked⟩ := Artifacts.exec_resolve f (⟨t.state, log⟩ : Trail Machine)
  rw [hload] at hexec
  rw [hresolve] at hchecked
  exact ⟨log', by rw [exec_bind_of_ok hexec, exec_bind_of_ok hchecked]⟩

/-- Where something was done, the declaration was loaded and kept all rules. -/
theorem exists_of_exec_ok {rest : StackFile → Deployment → Machine.Action α} {a : α}
    {t' : Trail Machine}
    (h : (p.load >>= fun f => Artifacts.resolve f >>= rest f).exec t = (.ok a, t')) :
    ∃ f d log, (runFrom t.state p.load).1 = .ok f ∧ f.resolve = .ok d ∧
      (rest f d).exec ⟨t.state, log⟩ = (.ok a, t') := by
  cases hload : (runFrom t.state p.load).1 with
  | error e =>
    obtain ⟨log, hexec⟩ := exec_of_load_error rest hload
    rw [h] at hexec
    cases hexec
  | ok f =>
    cases hresolve : f.resolve with
    | error e =>
      obtain ⟨log, hexec⟩ := exec_of_resolve_error rest hload hresolve
      rw [h] at hexec
      cases hexec
    | ok d =>
      obtain ⟨log, hexec⟩ := exec_load_resolve rest hload hresolve
      exact ⟨f, d, log, rfl, hresolve, hexec ▸ h⟩

end

/-! ## Generating -/

/-- The directory below which artifacts are written. -/
def targetOf (p : Project) : Option String → Path
  | some o => .ofString o
  | none => p.outputDirectory

/-- What is done for a sound declaration to write its artifacts. -/
def generate (hashing : Hashing) (p : Project) (output : Option String) (f : StackFile)
    (d : Deployment) : Machine.Action Report := do
  let secrets ← Secrets.ensure p.secretsFile d.guardedIds
  let artifacts ← Artifacts.compile hashing f secrets
  let paths ← artifacts.write f.settings.realm (targetOf p output)
  return { lines := paths.map fun (name, path) => s!"{name}: {path.text}" }

theorem exec_generate {hashing : Hashing} {output : Option String} {secrets : Secrets}
    {a : Artifacts} {paths : List (String × Path)} {t₁ t₂ t₃ : Trail Machine}
    (hensure : (Secrets.ensure p.secretsFile d.guardedIds).exec t = (.ok secrets, t₁))
    (hcompile : (Artifacts.compile hashing f secrets).exec t₁ = (.ok a, t₂))
    (hwrite : (a.write f.settings.realm (targetOf p output)).exec t₂ = (.ok paths, t₃)) :
    ∃ report, (generate hashing p output f d).exec t = (.ok report, t₃) ∧ report.exitCode = 0 := by
  refine ⟨{ lines := paths.map fun (name, path) => s!"{name}: {path.text}" }, ?_, rfl⟩
  rw [generate, exec_bind_of_ok hensure, exec_bind_of_ok hcompile, exec_bind_of_ok hwrite,
    exec_pure]

theorem writeArtifacts_eq (hashing : Hashing) (p : Project) (output : Option String) :
    writeArtifacts hashing p output =
      p.load >>= fun f => Artifacts.resolve f >>= generate hashing p output f := by
  cases output <;> rfl

/-- The secrets of a sound declaration, and what is reported about them. -/
def completeAll (p : Project) (d : Deployment) : Machine.Action Report := do
  let secrets ← Secrets.ensure p.secretsFile d.guardedIds
  let n := secrets.clientSecrets.length
  return { lines := [s!"Secrets for {n} services in {p.secretsFile.text}"] }

theorem completeSecrets_eq (p : Project) :
    completeSecrets p = p.load >>= fun f => Artifacts.resolve f >>= fun d => completeAll p d :=
  rfl

end StackCompiler.CommandLine
