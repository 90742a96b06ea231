import StackCompiler.Descriptor.Generate
import StackCompiler.Proofs.Cascade.Chain

/-!
# Which chains end

A service that answers is a trap if one before it has the same id: the browser comes back with that
id, and the chain goes on after the first service that has it, so that it meets the later one again.
With a prober that always answers alike, a chain ends just when it has no trap (`run_ends_iff`). The
schema of descriptors does not ask for distinct ids (`accepted_descriptor_without_end`).
-/

namespace StackCompiler

namespace Portal

open Session

variable {σ : Type} (p : Portal) (now : Number) (idToken : Option String)

/-- No service that answers has the id of one before it, or none is asked. -/
def HasNoTrap (reach : String → Bool) : Prop :=
  p.probesDisabled ∨ p.workList.Pairwise fun e e' => reach e'.url = true → e.id ≠ e'.id

instance (reach : String → Bool) : Decidable (p.HasNoTrap reach) :=
  inferInstanceAs (Decidable (_ ∨ _))

/-- A service that answers has the id of one before it. -/
structure Trap (reach : String → Bool) (before : List Descriptor.Entry) (e : Descriptor.Entry)
    (after : List Descriptor.Entry) : Prop where
  enabled : ¬p.probesDisabled
  split : p.workList = before ++ e :: after
  answers : reach e.url = true
  repeated : e.id ∈ before.map (·.id)

/-- A list in which some later element is not related to an earlier one. -/
theorem exists_split_of_not_pairwise {α : Type} {R : α → α → Prop} : ∀ {xs : List α},
    ¬xs.Pairwise R → ∃ before y after, xs = before ++ y :: after ∧ ∃ x ∈ before, ¬R x y
  | [], h => absurd List.Pairwise.nil h
  | x :: xs, h => by
    by_cases hx : ∀ y ∈ xs, R x y
    · have hxs : ¬xs.Pairwise R := fun hxs => h (List.pairwise_cons.2 ⟨hx, hxs⟩)
      obtain ⟨before, y, after, rfl, z, hz, hzy⟩ := exists_split_of_not_pairwise hxs
      exact ⟨x :: before, y, after, rfl, z, List.mem_cons_of_mem x hz, hzy⟩
    · obtain ⟨y, hy⟩ := Classical.not_forall.1 hx
      obtain ⟨hmem, hxy⟩ := Classical.not_imp.1 hy
      obtain ⟨before, after, rfl⟩ := List.append_of_mem hmem
      exact ⟨x :: before, y, after, rfl, x, List.mem_cons_self .., hxy⟩

theorem exists_trap {reach : String → Bool} (h : ¬p.HasNoTrap reach) :
    ∃ before e after, p.Trap reach before e after := by
  obtain ⟨henabled, hpairwise⟩ := not_or.1 h
  obtain ⟨before, e, after, hsplit, m, hm, hrel⟩ := exists_split_of_not_pairwise hpairwise
  obtain ⟨hanswers, hid⟩ := Classical.not_imp.1 hrel
  exact ⟨before, e, after, henabled, hsplit, hanswers,
    List.mem_map.2 ⟨m, hm, Classical.not_not.1 hid⟩⟩

/-! ## Trapped chains -/

/-- A search that could have found a service finds it or one before it. -/
theorem Search.found_of_answers {reach : String → Bool} {front after missed rest}
    {e : Descriptor.Entry} (he : reach e.url = true)
    (h : Search (fun url answer => answer = reach url) (front ++ e :: after) missed rest) :
    ∃ found rest', rest = found :: rest' ∧ (found ∈ front ∨ found = e) := by
  have hmissed : e ∉ missed := by
    intro hmem
    have := h.missed_allowed e hmem
    rw [he] at this
    cases this
  obtain ⟨gap, hfront, hrest⟩ | ⟨gap, hgap, hrest⟩ := List.append_eq_append_iff.1 h.split.symm
  · cases gap with
    | nil => exact ⟨e, after, by simpa using hrest, .inr rfl⟩
    | cons found gap =>
      refine ⟨found, gap ++ e :: after, hrest, .inl ?_⟩
      rw [hfront]
      simp
  · cases gap with
    | nil => exact ⟨e, after, by simpa using hrest.symm, .inr rfl⟩
    | cons found gap =>
      -- The search would have missed `e`.
      obtain ⟨rfl, -⟩ := List.cons.inj hrest
      rw [hgap] at hmissed
      simp at hmissed

variable {p} {reach : String → Bool} {before after : List Descriptor.Entry} {e : Descriptor.Entry}

/-- After a service before the trap, the trap is still ahead. -/
theorem Trap.ahead (h : p.Trap reach before e after) {id : String}
    (hid : id ∈ before.map (·.id)) :
    ∃ front, (∀ m ∈ front, m ∈ before) ∧ p.restAfter (some id) = front ++ e :: after := by
  obtain ⟨m, hm, hmid⟩ := List.mem_map.1 hid
  obtain ⟨n, hn⟩ : ∃ n, before.findIdx? (·.id == id) = some n := by
    rw [← Option.isSome_iff_exists, List.findIdx?_isSome, List.any_eq_true]
    exact ⟨m, hm, beq_iff_eq.2 hmid⟩
  obtain ⟨hlt, -⟩ := List.findIdx?_eq_some_iff_findIdx_eq.1 hn
  refine ⟨before.drop (n + 1), fun m hm => List.mem_of_mem_drop hm, ?_⟩
  rw [restAfter_of_enabled p h.enabled, Option.bind_some, positionAfter?, h.split,
    List.findIdx?_append, hn]
  exact List.drop_append_of_le_length hlt

/-- A chain that has the trap ahead runs through all its fuel. -/
theorem Trap.exec_hopsFrom (h : p.Trap reach before e after) {prober : Prober (σ × Calls)}
    (hp : prober.Keeps fun url answer => answer = reach url) : ∀ fuel lastId t,
      (∃ front, (∀ m ∈ front, m ∈ before) ∧ p.restAfter lastId = front ++ e :: after) →
        ((p.hopsFrom prober now idToken fuel lastId).exec t).1 = .error .cascadeWithoutEnd
  | 0, _, _, _ => rfl
  | fuel + 1, lastId, t, ⟨front, hfront, hrest⟩ => by
    obtain ⟨missed, rest, t', hsearch, hstep, -⟩ := exec_step p now idToken hp lastId t
    rw [hrest] at hsearch
    obtain ⟨found, rest', rfl, hfound⟩ := hsearch.found_of_answers h.answers
    have hid : found.id ∈ before.map (·.id) := by
      rcases hfound with hmem | rfl
      · exact List.mem_map_of_mem (hfront found hmem)
      · exact h.repeated
    rw [hopsFrom, exec_bind_of_ok hstep]
    exact fst_exec_bind_of_error (h.exec_hopsFrom hp fuel (some found.id) t' (h.ahead hid))

/-! ## The condition -/

section Condition

variable (p) {prober : Prober σ} (hp : prober.Decides reach) (t : Trail σ)

include hp

theorem exec_run_of_hasNoTrap (h : p.HasNoTrap reach) :
    ∃ trace, ((p.run prober now idToken).exec t).1 = .ok trace ∧
      trace.navigations.length ≤ p.workList.length := by
  have hresumes : p.Resumes (fun url answer => answer = reach url) (p.restAfter none) := by
    rcases h with hd | hpairwise
    · rw [restAfter_of_disabled p hd]
      exact resumes_nil p
    · exact resumes_of_pairwise p (hpairwise.imp fun hids hreach => hids hreach.symm)
  obtain ⟨visits, t', hrun, hvisits, -⟩ :=
    exec_run p now idToken hp.keeps hresumes ⟨(t.state, []), t.log⟩
  have herased := erases_run p (Prober.erases_recorded prober) now idToken ⟨(t.state, []), t.log⟩
  rw [hrun] at herased
  refine ⟨p.traceOf now idToken visits, congrArg Prod.fst herased, ?_⟩
  calc (visits.reached.map p.signOutUrl).length
      = (visits.filter (·.2)).length := by simp [Visits.reached]
    _ ≤ visits.length := List.length_filter_le ..
    _ = (p.restAfter none).length := by rw [← hvisits, List.length_map]
    _ ≤ p.workList.length := p.length_restAfter_none_le

theorem exec_hopsFrom_of_trap (h : ¬p.HasNoTrap reach) (fuel : Nat) :
    ((p.hopsFrom prober now idToken fuel none).exec t).1 = .error .cascadeWithoutEnd := by
  obtain ⟨before, e, after, htrap⟩ := p.exists_trap h
  have hstart : p.restAfter none = before ++ e :: after := by
    rw [restAfter_none p htrap.enabled, htrap.split]
  have herror := htrap.exec_hopsFrom now idToken hp.keeps fuel none ⟨(t.state, []), t.log⟩
    ⟨before, fun _ hm => hm, hstart⟩
  have herased := erases_hopsFrom p (Prober.erases_recorded prober) now idToken fuel none
    ⟨(t.state, []), t.log⟩
  rw [← herror]
  exact congrArg Prod.fst herased

theorem exec_run_of_trap (h : ¬p.HasNoTrap reach) :
    ((p.run prober now idToken).exec t).1 = .error .cascadeWithoutEnd :=
  fst_exec_bind_of_error (exec_hopsFrom_of_trap p now idToken hp t h _)

/-- With a prober that always answers alike, a chain ends after as many navigations as there are
services or fewer, unless it has a trap; then no number of hops is enough. -/
theorem run_ends_iff :
    (p.HasNoTrap reach → ∃ trace, ((p.run prober now idToken).exec t).1 = .ok trace ∧
      trace.navigations.length ≤ p.workList.length) ∧
    (¬p.HasNoTrap reach →
      ((p.run prober now idToken).exec t).1 = .error .cascadeWithoutEnd ∧
      ∀ fuel,
        ((p.hopsFrom prober now idToken fuel none).exec t).1 = .error .cascadeWithoutEnd) := by
  constructor
  · exact exec_run_of_hasNoTrap p now idToken hp t
  · intro h
    exact ⟨exec_run_of_trap p now idToken hp t h, exec_hopsFrom_of_trap p now idToken hp t h⟩

end Condition

/-- Two services with one id. -/
def twins : List Descriptor.Entry :=
  [sampleEntry "docs" "https://docs.example.org", sampleEntry "docs" "https://wiki.example.org"]

/-- The prober that always says yes. -/
def Prober.yes : Prober Unit := fun _ => pure true

theorem Prober.yes_decides : Prober.yes.Decides fun _ => true := fun _ t => ⟨t, rfl⟩

/-- The chain of the first twin alone ends, that of both does not. -/
theorem run_ends_iff_twins :
    Prober.yes.Decides (fun _ => true) ∧
      (∃ trace, (((samplePortal (twins.take 1)).run Prober.yes (.int 0) none).exec ⟨(), []⟩).1 =
        .ok trace) ∧
      (((samplePortal twins).run Prober.yes (.int 0) none).exec ⟨(), []⟩).1 =
        .error .cascadeWithoutEnd := by
  have hfirst :=
    run_ends_iff (samplePortal (twins.take 1)) (.int 0) none Prober.yes_decides ⟨(), []⟩
  have hboth := run_ends_iff (samplePortal twins) (.int 0) none Prober.yes_decides ⟨(), []⟩
  obtain ⟨trace, hrun, -⟩ := hfirst.1 (by decide)
  obtain ⟨herror, -⟩ := hboth.2 (by decide)
  exact ⟨Prober.yes_decides, ⟨trace, hrun⟩, herror⟩

/-- The schema accepts a document whose chain does not end. -/
theorem accepted_descriptor_without_end :
    ¬∀ (document : Json) (p : Portal), (Descriptor.ofJson document).toOption = some p.descriptor →
      ∀ (prober : Prober Unit) reach, prober.Decides reach → ∀ now idToken t, ∃ trace,
        ((p.run prober now idToken).exec t).1 = .ok trace ∧
          trace.navigations.length ≤ p.workList.length := by
  intro h
  obtain ⟨trace, hrun, -⟩ := h (samplePortal twins).descriptor.toJson (samplePortal twins)
    (by decide +kernel) Prober.yes _ Prober.yes_decides (.int 0) none ⟨(), []⟩
  have herror := exec_run_of_trap (samplePortal twins) (.int 0) none Prober.yes_decides ⟨(), []⟩
    (by decide)
  rw [hrun] at herror
  cases herror

end Portal
end StackCompiler
