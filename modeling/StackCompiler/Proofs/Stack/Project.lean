import StackCompiler.Proofs.Deployment.Rules
import StackCompiler.Proofs.Secrets.Loading

/-!
# Loading projects

Loading a project reads its stack file and changes nothing (`Project.reads_load`). It gives a stack
file where the text that is read says one, so that it does not depend on anything else
(`Project.fst_exec_load_eq_ok_iff`), and what is loaded is well formed.
-/

namespace StackCompiler

open Session

namespace Project

variable {p : Project} {f : StackFile} {t : Trail Machine}

theorem reads_readDocument (onMalformed : Failure) (path : Path) :
    Reads (readDocument onMalformed path) := by
  refine (Machine.reads_read path).bind fun text => ?_
  split
  · exact reads_pure _
  · exact reads_throw _

theorem reads_parse (source : String) (d : Data) : Reads (parse (σ := Machine) source d) :=
  (reads_ofExcept _).bind fun _ => (reads_note _).bind fun _ => reads_pure _

theorem reads_load (p : Project) : Reads p.load := by
  refine (Machine.reads_exists? _).bind fun found => ?_
  have hparse := (reads_readDocument (.stackFileUnreadable p.configFile.text) p.configFile).bind
    fun d => reads_parse p.configFile.text d
  exact reads_ite hparse ((reads_throw _).bind fun _ => hparse)

/-- The stack file that a text says. -/
def ofText (p : Project) (text : String) : Except Failure StackFile :=
  Secrets.documentOf (.stackFileUnreadable p.configFile.text) text >>=
    StackFile.ofData p.configFile.text

theorem fst_exec_parse {σ : Type} (source : String) (d : Data) (t : Trail σ) :
    ((parse source d).exec t).1 = StackFile.ofData source d := by
  rw [parse, exec_bind, exec_ofExcept]
  cases StackFile.ofData source d <;> rfl

/-- What is loaded where there is something at the path. -/
theorem fst_exec_readDocument_parse : ((readDocument (.stackFileUnreadable p.configFile.text)
    p.configFile >>= parse p.configFile.text).exec t).1 =
      (t.state.tree.read p.configFile >>= p.ofText) := by
  rw [exec_bind, Secrets.exec_readDocument]
  cases t.state.tree.read p.configFile with
  | error e => rfl
  | ok text =>
    have hdocument : (Except.ok text >>= Secrets.documentOf
        (.stackFileUnreadable p.configFile.text)) = Secrets.documentOf _ text := rfl
    rw [hdocument]
    change _ = Secrets.documentOf _ text >>= _
    cases Secrets.documentOf (.stackFileUnreadable p.configFile.text) text with
    | error e => rfl
    | ok d => exact fst_exec_parse _ _ _

theorem fst_exec_load (h : t.state.tree.contains p.configFile = .ok true) :
    (p.load.exec t).1 = t.state.tree.read p.configFile >>= p.ofText := by
  rw [load, exec_bind, Machine.exec_exists?, h, ← fst_exec_readDocument_parse]
  rfl

/-- A stack file is loaded where a text is read that says one. -/
theorem fst_exec_load_eq_ok_iff : (p.load.exec t).1 = .ok f ↔
    ∃ text, t.state.tree.read p.configFile = .ok text ∧ p.ofText text = .ok f := by
  rw [← bind_eq_ok]
  by_cases hfound : t.state.tree.contains p.configFile = .ok true
  · rw [fst_exec_load hfound]
  · refine iff_of_false (fun h => ?_) fun h => ?_
    · rw [load, exec_bind, Machine.exec_exists?] at h
      rcases hcontains : t.state.tree.contains p.configFile with e | _ | _
      · rw [hcontains] at h
        cases h
      · rw [hcontains] at h
        cases h
      · exact hfound hcontains
    · obtain ⟨text, hread, -⟩ := bind_eq_ok.1 h
      exact hfound (Tree.contains_of_read hread)

end Project

namespace StackFile

variable {p : Project} {m : Machine} {f : StackFile} {d : Deployment}

/-- What is loaded was read from data. -/
theorem wellFormed_of_load (h : (runFrom m p.load).1 = .ok f) : f.WellFormed := by
  obtain ⟨text, -, htext⟩ := Project.fst_exec_load_eq_ok_iff.1 h
  obtain ⟨data, -, hdata⟩ := bind_eq_ok.1 htext
  exact wellFormed_of_ofData hdata

theorem sound_of_load (hload : (runFrom m p.load).1 = .ok f) (hresolve : f.resolve = .ok d) :
    d.Sound (Catalog.builtIn.map (·.1)) :=
  sound_of_resolve (wellFormed_of_load hload) hresolve

end StackFile
end StackCompiler
