import StackCompiler.Portal.Cascade
import StackCompiler.Proofs.Session

/-!
# Probing the work list

A prober may answer differently from call to call. `Prober.recorded` adds a list of the calls to its
state without changing what it does (`erases_run`). `exec_findReachable` says what a search does
with such a prober: it asks the services in their order, up to the first one that answers.
-/

namespace StackCompiler

namespace Portal

open Session

variable {σ : Type}

/-- What a prober was asked, and what it answered. -/
abbrev Calls := List (String × Bool)

namespace Prober

/-- The prober never fails; its answers may depend on all that went before. -/
def Answers (prober : Prober σ) : Prop :=
  ∀ url t, ∃ answer t', (prober url).exec t = (.ok answer, t')

/-- The prober answers for each address what `reach` says, whatever went before. -/
def Decides (prober : Prober σ) (reach : String → Bool) : Prop :=
  ∀ url t, ∃ t', (prober url).exec t = (.ok (reach url), t')

/-- The prober with a list of its calls. -/
def recorded (prober : Prober σ) : Prober (σ × Calls) := fun url => do
  let answer ← Session.onFirst (prober url)
  let s ← Session.state
  Session.setState (s.1, s.2 ++ [(url, answer)])
  return answer

theorem exec_recorded {prober : Prober σ} {url : String} {t : Trail (σ × Calls)} {t' : Trail σ}
    {answer : Bool} (h : (prober url).exec (erase t) = (.ok answer, t')) :
    (prober.recorded url).exec t =
      (.ok answer, ⟨(t'.state, t.state.2 ++ [(url, answer)]), t'.log⟩) := by
  have hfirst : (onFirst (prober url)).exec t = (.ok answer, ⟨(t'.state, t.state.2), t'.log⟩) := by
    rw [exec_onFirst, h]
  rw [recorded, exec_bind_of_ok hfirst]
  rfl

/-- A prober that answers in allowed ways and adds each call to the list. -/
def Keeps (allowed : String → Bool → Prop) (prober : Prober (σ × Calls)) : Prop :=
  ∀ url t, ∃ answer t', (prober url).exec t = (.ok answer, t') ∧ allowed url answer ∧
    t'.state.2 = t.state.2 ++ [(url, answer)]

theorem Answers.keeps {prober : Prober σ} (h : prober.Answers) :
    prober.recorded.Keeps fun _ _ => True := by
  intro url t
  obtain ⟨answer, t', ht⟩ := h url (erase t)
  exact ⟨answer, _, exec_recorded ht, trivial, rfl⟩

theorem Decides.answers {prober : Prober σ} {reach : String → Bool} (h : prober.Decides reach) :
    prober.Answers := by
  intro url t
  obtain ⟨t', ht⟩ := h url t
  exact ⟨reach url, t', ht⟩

theorem Decides.keeps {prober : Prober σ} {reach : String → Bool} (h : prober.Decides reach) :
    prober.recorded.Keeps fun url answer => answer = reach url := by
  intro url t
  obtain ⟨t', ht⟩ := h url (erase t)
  exact ⟨reach url, _, exec_recorded ht, rfl, rfl⟩

theorem erases_recorded (prober : Prober σ) (url : String) :
    Erases (prober.recorded url) (prober url) := by
  intro t
  rcases h : (prober url).exec (erase t) with ⟨f | answer, t'⟩
  · have hfirst : (onFirst (prober url)).exec t = (.error f, ⟨(t'.state, t.state.2), t'.log⟩) := by
      rw [exec_onFirst, h]
    rw [recorded, exec_bind_of_error hfirst]
    rfl
  · rw [exec_recorded h]
    rfl

end Prober

/-! ## What recording does not change -/

section Erasure

variable (p : Portal) {κ : Type} {prober : Prober σ} {recorder : Prober (σ × κ)}

theorem erases_findReachable (h : ∀ url, Erases (recorder url) (prober url)) :
    ∀ es, Erases (findReachable recorder es) (findReachable prober es)
  | [] => erases_pure _
  | e :: es => by
    refine (h e.url).bind fun answer => erases_ite ?_ ?_
    · exact (erases_note _).bind fun _ => erases_pure _
    · refine (erases_note _).bind fun _ => ?_
      exact (erases_findReachable h es).bind fun _ => erases_pure _

theorem erases_startIndex (lastId : Option String) :
    Erases (p.startIndex lastId : Session (σ × κ) Nat) (p.startIndex lastId) := by
  unfold startIndex
  cases lastId with
  | none => exact erases_pure _
  | some id =>
    dsimp only
    cases p.positionAfter? id with
    | none => exact (erases_note _).bind fun _ => erases_pure _
    | some n => exact erases_pure _

theorem erases_remaining (lastId : Option String) :
    Erases (p.remaining lastId : Session (σ × κ) _) (p.remaining lastId) := by
  refine erases_ite ?_ ?_
  · exact (erases_note _).bind fun _ => erases_pure _
  · exact (erases_startIndex p lastId).bind fun _ => erases_pure _

theorem erases_noteVerdict (verdict : Token.Verdict) :
    Erases (noteVerdict verdict : Session (σ × κ) Unit) (noteVerdict verdict) := by
  cases verdict with
  | malformed | expired => exact erases_note _
  | absent | withoutExpiry | usable => exact erases_pure _

theorem erases_endSessionUrl (now : Number) (idToken : Option String) :
    Erases (p.endSessionUrl now idToken : Session (σ × κ) _) (p.endSessionUrl now idToken) :=
  (erases_noteVerdict _).bind fun _ => erases_pure _

theorem erases_step (h : ∀ url, Erases (recorder url) (prober url)) (now : Number)
    (lastId idToken : Option String) :
    Erases (p.step recorder now lastId idToken) (p.step prober now lastId idToken) := by
  refine Erases.bind ?_ fun _ => (erases_remaining p lastId).bind fun es => ?_
  · cases lastId <;> exact erases_note _
  · refine (erases_findReachable h es).bind fun found => ?_
    rcases found with ⟨skipped, _ | e⟩
    · refine (erases_note _).bind fun _ => ?_
      exact (erases_endSessionUrl p now idToken).bind fun _ => erases_pure _
    · exact erases_pure _

theorem erases_hopsFrom (h : ∀ url, Erases (recorder url) (prober url)) (now : Number)
    (idToken : Option String) : ∀ fuel lastId,
      Erases (p.hopsFrom recorder now idToken fuel lastId)
        (p.hopsFrom prober now idToken fuel lastId)
  | 0, _ => erases_throw _
  | fuel + 1, lastId => by
    refine (erases_step p h now lastId idToken).bind fun hop => erases_ite (erases_pure _) ?_
    exact (erases_hopsFrom h now idToken fuel hop.nextId).bind fun _ => erases_pure _

theorem erases_run (h : ∀ url, Erases (recorder url) (prober url)) (now : Number)
    (idToken : Option String) :
    Erases (p.run recorder now idToken) (p.run prober now idToken) :=
  (erases_hopsFrom p h now idToken _ _).bind fun _ => erases_pure _

end Erasure

/-! ## Searching -/

theorem exec_note_bind {α : Type} (level : Log.Level) (message : String)
    (event serviceId : Option String) (f : Unit → Session σ α) (t : Trail σ) :
    (note level message event serviceId >>= f).exec t =
      (f ()).exec ⟨t.state, t.log ++ [⟨level, Probe.logger, message, event, serviceId, none⟩]⟩ :=
  rfl

/-- A search that misses some services and stops before the rest. -/
structure Search (allowed : String → Bool → Prop) (es missed rest : List Descriptor.Entry) :
    Prop where
  split : es = missed ++ rest
  missed_allowed : ∀ e ∈ missed, allowed e.url false
  found_allowed : ∀ e ∈ rest.head?, allowed e.url true

/-- The calls of a search. -/
def searchCalls (missed rest : List Descriptor.Entry) : Calls :=
  missed.map (fun e => (e.url, false)) ++ rest.head?.toList.map fun e => (e.url, true)

variable {allowed : String → Bool → Prop} {prober : Prober (σ × Calls)}

/-- The services are asked in their order, up to the first one that answers. -/
theorem exec_findReachable (hp : prober.Keeps allowed) : ∀ es t, ∃ missed rest t',
    Search allowed es missed rest ∧
      (findReachable prober es).exec t = (.ok (missed.map (·.id), rest.head?), t') ∧
      t'.state.2 = t.state.2 ++ searchCalls missed rest
  | [], t => ⟨[], [], t, ⟨rfl, by simp, by simp⟩, rfl, by simp [searchCalls]⟩
  | e :: es, t => by
    obtain ⟨answer, t₁, hask, hallowed, hcalls⟩ := hp e.url t
    rw [findReachable, exec_bind_of_ok hask]
    cases answer with
    | true =>
      refine ⟨[], e :: es, _, ⟨rfl, by simp, by simpa using hallowed⟩, rfl, ?_⟩
      simpa [searchCalls] using hcalls
    | false =>
      rw [if_neg Bool.false_ne_true, exec_note_bind]
      generalize t₁.log ++ _ = log
      obtain ⟨missed, rest, t₂, hsearch, hfind, hcalls₂⟩ := exec_findReachable hp es ⟨t₁.state, log⟩
      refine ⟨e :: missed, rest, t₂, ⟨?_, ?_, hsearch.found_allowed⟩, ?_, ?_⟩
      · rw [hsearch.split, List.cons_append]
      · exact List.forall_mem_cons.2 ⟨hallowed, hsearch.missed_allowed⟩
      · rw [exec_bind_of_ok hfind]
        rfl
      · rw [hcalls₂, hcalls]
        simp [searchCalls]

end Portal
end StackCompiler
