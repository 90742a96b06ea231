import StackCompiler.Proofs.Cascade.Chain

/-!
# Chains on any trails

A chain asks its prober about the addresses of its services and depends on nothing else: with two
probers that agree on these it has the same hops, whatever the trails (`agree_hopsFrom`). Where the
services have distinct ids and the prober always says the same of each, these hops always come to an
end (`exists_gives_hops`).
-/

namespace StackCompiler

namespace Portal

open Session

variable {σ τ : Type} (p : Portal) (now : Number) (idToken : Option String)

section Agreement

variable {prober : Prober σ} {prober' : Prober τ}

theorem agree_findReachable : ∀ es : List Descriptor.Entry,
    (∀ e ∈ es, Agree (prober e.url) (prober' e.url)) →
      Agree (findReachable prober es) (findReachable prober' es)
  | [], _ => agree_pure _
  | e :: es, h => by
    obtain ⟨he, hes⟩ := List.forall_mem_cons.1 h
    refine he.bind fun answer => agree_ite ?_ ?_
    · exact .bind_of_gives (gives_note _) (gives_note _) (agree_pure _)
    · refine .bind_of_gives (gives_note _) (gives_note _) ?_
      exact (agree_findReachable es hes).bind fun _ => agree_pure _

theorem gives_remaining (lastId : Option String) :
    Gives (p.remaining lastId : Session σ _) (p.restAfter lastId) := by
  intro t
  obtain ⟨log, h⟩ := exec_remaining p lastId t
  exact ⟨_, h⟩

theorem gives_endSessionUrl : Gives (p.endSessionUrl now idToken : Session σ _)
    (p.endSessionUrlFor (Token.verdict now idToken) idToken) := by
  intro t
  obtain ⟨log, h⟩ := exec_endSessionUrl p now idToken t
  exact ⟨_, h⟩

theorem gives_noteStart (lastId : Option String) :
    Gives (noteStart lastId : Session σ Unit) () := by
  cases lastId <;> exact gives_note _

theorem agree_step (h : ∀ e ∈ p.workList, Agree (prober e.url) (prober' e.url))
    (lastId : Option String) :
    Agree (p.step prober now lastId idToken) (p.step prober' now lastId idToken) := by
  refine .bind_of_gives (gives_noteStart lastId) (gives_noteStart lastId) ?_
  refine .bind_of_gives (gives_remaining p lastId) (gives_remaining p lastId) ?_
  refine (agree_findReachable _ fun e he => h e (restAfter_subset p lastId he)).bind fun found => ?_
  rcases found with ⟨skipped, _ | e⟩
  · refine .bind_of_gives (gives_note _) (gives_note _) ?_
    exact .bind_of_gives (gives_endSessionUrl p now idToken) (gives_endSessionUrl p now idToken)
      (agree_pure _)
  · exact agree_pure _

/-- A chain depends on the prober at the addresses of the services only. -/
theorem agree_hopsFrom (h : ∀ e ∈ p.workList, Agree (prober e.url) (prober' e.url)) :
    ∀ fuel lastId, Agree (p.hopsFrom prober now idToken fuel lastId)
      (p.hopsFrom prober' now idToken fuel lastId)
  | 0, _ => agree_throw _
  | fuel + 1, lastId => by
    refine (agree_step p now idToken h lastId).bind fun hop => agree_ite (agree_pure _) ?_
    exact (agree_hopsFrom h fuel hop.nextId).bind fun _ => agree_pure _

end Agreement

/-- Where the services have distinct ids and the prober always says the same of each, the hops are
always the same, too. -/
theorem exists_gives_hops {prober : Prober σ} {reach : String → Bool}
    (hids : (p.workList.map (·.id)).Nodup)
    (hreach : ∀ e ∈ p.workList, Gives (prober e.url) (reach e.url)) :
    ∃ hs, Gives (p.hops prober now idToken) hs := by
  let simple : Prober Unit := fun url => pure (reach url)
  have hagree : ∀ e ∈ p.workList, Agree (prober e.url) (simple e.url) := fun e he =>
    (hreach e he).agree fun u => ⟨u, rfl⟩
  have hpairwise : p.workList.Pairwise fun e e' => True → e.id ≠ e'.id :=
    (List.pairwise_map.1 hids).imp fun h _ => h
  have hanswers : simple.Answers := fun url u => ⟨reach url, u, rfl⟩
  obtain ⟨_, hs, u, hhops, -⟩ := exec_hopsFrom p now idToken hanswers.keeps (p.workList.length + 1)
    none ⟨((), []), []⟩ (resumes_of_pairwise p hpairwise)
    (Nat.lt_succ_of_le p.length_restAfter_none_le)
  have hsimple := erases_hopsFrom p (Prober.erases_recorded simple) now idToken
    (p.workList.length + 1) none ⟨((), []), []⟩
  rw [hhops] at hsimple
  refine ⟨hs, fun t => ?_⟩
  have hresult := agree_hopsFrom p now idToken hagree (p.workList.length + 1) none t ⟨(), []⟩
  exact ⟨_, Prod.ext (hresult.trans (congrArg Prod.fst hsimple)) rfl⟩

end Portal
end StackCompiler
