import StackCompiler.Proofs.Cascade.Chain

/-!
# Probers that decide

A prober that decides by the address alone parts the services into those that are signed out and
those that are skipped, both in the order of the descriptor (`Portal.exec_run_of_decides`). If it
leaves the state as it is, so does the chain (`Portal.reads_run`).
-/

namespace StackCompiler

namespace Portal

open Session

variable {σ : Type} (p : Portal) (now : Number) (idToken : Option String) {prober : Prober σ}

/-! ## The trace -/

/-- Each visit has the answer that is decided by the address. -/
theorem Visits.eq_map_of_decided {reach : String → Bool} {visits : Visits}
    {es : List Descriptor.Entry} (hvisits : visits.map (·.1) = es)
    (hdecided : ∀ v ∈ visits, v.2 = reach v.1.url) :
    visits = es.map fun e => (e, reach e.url) := by
  rw [← hvisits, List.map_map]
  exact (List.map_id visits).symm.trans
    (List.map_congr_left fun v hv => Prod.ext rfl (hdecided v hv))

theorem Visits.reached_map (reach : String → Bool) (es : List Descriptor.Entry) :
    Visits.reached (es.map fun e => (e, reach e.url)) = es.filter fun e => reach e.url := by
  rw [Visits.reached, List.filter_map, List.map_map]
  exact List.map_id _

theorem Visits.missed_map (reach : String → Bool) (es : List Descriptor.Entry) :
    Visits.missed (es.map fun e => (e, reach e.url)) = es.filter fun e => !reach e.url := by
  rw [Visits.missed, List.filter_map, List.map_map]
  exact List.map_id _

/-- Where services have distinct ids and probing is on, the chain signs out of the services that the
prober decides for, and skips the others. -/
theorem exec_run_of_decides {reach : String → Bool} (hp : prober.Decides reach)
    (hids : (p.workList.map (·.id)).Nodup) (hd : ¬p.probesDisabled) (t : Trail σ) :
    ((p.run prober now idToken).exec t).1 = .ok {
      navigations := (p.workList.filter fun e => reach e.url).map p.signOutUrl
      skipped := (p.workList.filter fun e => !reach e.url).map (·.id)
      endSessionUrl := p.endSessionUrlFor (Token.verdict now idToken) idToken } := by
  have hpairwise : p.workList.Pairwise fun e e' => true = reach e'.url → e.id ≠ e'.id := by
    refine (List.pairwise_map.1 hids).imp ?_
    exact fun hne _ => hne
  obtain ⟨visits, t', hrun, hvisits, -, hdecided⟩ := exec_run_allowed p now idToken hp.keeps
    (resumes_of_pairwise p hpairwise) ⟨(t.state, []), t.log⟩
  rw [restAfter_none p hd] at hvisits
  have herased := erases_run p (Prober.erases_recorded prober) now idToken ⟨(t.state, []), t.log⟩
  rw [hrun] at herased
  refine (congrArg Prod.fst herased).trans ?_
  rw [Visits.eq_map_of_decided hvisits hdecided, traceOf, Visits.reached_map, Visits.missed_map]

/-! ## The state -/

section Reading

variable (h : ∀ url, Reads (prober url))

include h

theorem reads_findReachable : ∀ es, Reads (findReachable prober es)
  | [] => reads_pure _
  | e :: es => by
    refine (h e.url).bind fun answer => reads_ite ?_ ?_
    · exact (reads_note _).bind fun _ => reads_pure _
    · exact (reads_note _).bind fun _ => (reads_findReachable es).bind fun _ => reads_pure _

omit h in
theorem reads_remaining (lastId : Option String) :
    Reads (p.remaining lastId : Session σ (List Descriptor.Entry)) := by
  refine reads_ite ?_ (Reads.bind ?_ fun _ => reads_pure _)
  · exact (reads_note _).bind fun _ => reads_pure _
  · unfold startIndex
    cases lastId with
    | none => exact reads_pure _
    | some id =>
      dsimp only
      cases p.positionAfter? id with
      | none => exact (reads_note _).bind fun _ => reads_pure _
      | some n => exact reads_pure _

omit h in
theorem reads_endSessionUrl :
    Reads (p.endSessionUrl now idToken : Session σ String) := by
  refine Reads.bind ?_ fun _ => reads_pure _
  cases Token.verdict now idToken with
  | malformed | expired => exact reads_note _
  | absent | withoutExpiry | usable => exact reads_pure _

theorem reads_step (lastId : Option String) : Reads (p.step prober now lastId idToken) := by
  refine Reads.bind ?_ fun _ => (reads_remaining p lastId).bind fun es => ?_
  · cases lastId <;> exact reads_note _
  · refine (reads_findReachable h es).bind fun found => ?_
    rcases found with ⟨skipped, _ | e⟩
    · exact (reads_note _).bind fun _ => (reads_endSessionUrl p now idToken).bind fun _ =>
        reads_pure _
    · exact reads_pure _

theorem reads_hopsFrom : ∀ fuel lastId, Reads (p.hopsFrom prober now idToken fuel lastId)
  | 0, _ => reads_throw _
  | fuel + 1, lastId => by
    refine (reads_step p now idToken h lastId).bind fun hop => reads_ite (reads_pure _) ?_
    exact (reads_hopsFrom fuel hop.nextId).bind fun _ => reads_pure _

theorem reads_run : Reads (p.run prober now idToken) :=
  (reads_hopsFrom p now idToken h _ _).bind fun _ => reads_pure _

end Reading

end Portal
end StackCompiler
