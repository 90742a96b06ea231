import StackCompiler.Proofs.Cascade.Probing

/-!
# Whole chains

The hops of a chain know of each other only by the id of the last service. `exec_step` says what one
hop does: it searches the services that are left after that id. A chain `Resumes` where each of
these searches goes on right after the service that the one before it found; then the chain visits
every service once, and ends (`exec_hopsFrom`). Distinct ids are enough for that
(`resumes_of_pairwise`).
-/

namespace StackCompiler

namespace Portal

open Session

variable {σ : Type} (p : Portal) (now : Number) (idToken : Option String)

/-! ## One hop -/

/-- The services that are left after the one that sent the browser back. -/
def restAfter (lastId : Option String) : List Descriptor.Entry :=
  if p.probesDisabled then [] else p.workList.drop ((lastId.bind p.positionAfter?).getD 0)

theorem restAfter_of_disabled (h : p.probesDisabled) (lastId : Option String) :
    p.restAfter lastId = [] := if_pos h

theorem restAfter_of_enabled (h : ¬p.probesDisabled) (lastId : Option String) :
    p.restAfter lastId = p.workList.drop ((lastId.bind p.positionAfter?).getD 0) := if_neg h

theorem restAfter_none (h : ¬p.probesDisabled) : p.restAfter none = p.workList := by
  rw [restAfter_of_enabled p h]
  exact List.drop_zero

theorem restAfter_prefix (lastId : Option String) :
    p.restAfter lastId <+: p.workList.drop ((lastId.bind p.positionAfter?).getD 0) := by
  unfold restAfter
  split
  · exact List.nil_prefix
  · exact List.prefix_rfl

theorem restAfter_subset (lastId : Option String) : p.restAfter lastId ⊆ p.workList :=
  fun _ he => List.drop_subset _ _ ((p.restAfter_prefix lastId).subset he)

theorem exec_startIndex (lastId : Option String) (t : Trail σ) : ∃ log,
    (p.startIndex lastId).exec t =
      (.ok ((lastId.bind p.positionAfter?).getD 0), ⟨t.state, log⟩) := by
  cases lastId with
  | none => exact ⟨t.log, rfl⟩
  | some id =>
    simp only [startIndex, Option.bind_some]
    cases p.positionAfter? id with
    | none => exact ⟨_, rfl⟩
    | some n => exact ⟨t.log, rfl⟩

theorem exec_remaining (lastId : Option String) (t : Trail σ) : ∃ log,
    (p.remaining lastId).exec t = (.ok (p.restAfter lastId), ⟨t.state, log⟩) := by
  unfold remaining
  split
  · rename_i h
    rw [restAfter_of_disabled p ((Bool.and_eq_true _ _).mp h).1]
    exact ⟨_, rfl⟩
  · rename_i h
    obtain ⟨log, hstart⟩ := exec_startIndex p lastId t
    refine ⟨log, ?_⟩
    rw [exec_bind_of_ok hstart, exec_pure]
    by_cases hd : p.probesDisabled
    · -- Probing is off, so there is no service at all.
      have hempty : p.workList = [] := by simpa [hd] using h
      rw [restAfter_of_disabled p hd, hempty, List.drop_nil]
    · rw [restAfter_of_enabled p hd]

theorem exec_endSessionUrl (t : Trail σ) : ∃ log,
    (p.endSessionUrl now idToken).exec t =
      (.ok (p.endSessionUrlFor (Token.verdict now idToken) idToken), ⟨t.state, log⟩) := by
  unfold endSessionUrl
  cases Token.verdict now idToken <;> exact ⟨_, rfl⟩

/-- The hop after a search. -/
def hopAfter (missed rest : List Descriptor.Entry) : Hop :=
  match rest with
  | [] => lastHop (missed.map (·.id)) (p.endSessionUrlFor (Token.verdict now idToken) idToken)
  | e :: _ => p.hopTo (missed.map (·.id)) e

variable {allowed : String → Bool → Prop} {prober : Prober (σ × Calls)}

/-- A hop searches the services that are left, and asks no others. -/
theorem exec_step (hp : prober.Keeps allowed) (lastId : Option String) (t : Trail (σ × Calls)) :
    ∃ missed rest t', Search allowed (p.restAfter lastId) missed rest ∧
      (p.step prober now lastId idToken).exec t = (.ok (p.hopAfter now idToken missed rest), t') ∧
      t'.state.2 = t.state.2 ++ searchCalls missed rest := by
  obtain ⟨log₀, hstart⟩ : ∃ log, (noteStart lastId).exec t = (.ok (), ⟨t.state, log⟩) := by
    cases lastId <;> exact ⟨_, rfl⟩
  obtain ⟨log₁, hrest⟩ := exec_remaining p lastId ⟨t.state, log₀⟩
  obtain ⟨missed, rest, t₁, hsearch, hfind, hcalls⟩ :=
    exec_findReachable hp (p.restAfter lastId) ⟨t.state, log₁⟩
  unfold step
  rw [exec_bind_of_ok hstart, exec_bind_of_ok hrest, exec_bind_of_ok hfind]
  cases rest with
  | nil =>
    obtain ⟨log₂, hnote⟩ : ∃ log, (noteEnd idToken).exec t₁ = (.ok (), ⟨t₁.state, log⟩) := ⟨_, rfl⟩
    obtain ⟨log₃, hend⟩ := exec_endSessionUrl p now idToken ⟨t₁.state, log₂⟩
    refine ⟨missed, [], ⟨t₁.state, log₃⟩, hsearch, ?_, hcalls⟩
    dsimp only [List.head?_nil]
    rw [exec_bind_of_ok hnote, exec_bind_of_ok hend]
    rfl
  | cons e rest => exact ⟨missed, e :: rest, t₁, hsearch, rfl, hcalls⟩

/-! ## Going on -/

/-- After each service of a list that may answer, the chain goes on with what follows it there. -/
def Resumes (allowed : String → Bool → Prop) (es : List Descriptor.Entry) : Prop :=
  ∀ missed e rest, es = missed ++ e :: rest → allowed e.url true → p.restAfter (some e.id) = rest

theorem resumes_nil : p.Resumes allowed [] := by
  intro missed e rest h
  simp at h

variable {p} in
theorem Resumes.tail {missed rest : List Descriptor.Entry} {e : Descriptor.Entry}
    (h : p.Resumes allowed (missed ++ e :: rest)) : p.Resumes allowed rest := by
  intro missed' e' rest' hsplit hallowed
  refine h (missed ++ e :: missed') e' rest' ?_ hallowed
  rw [hsplit, List.append_assoc, List.cons_append]

/-- The chain goes on after the first service with an id. -/
theorem positionAfter?_of_split {missed rest : List Descriptor.Entry} {e : Descriptor.Entry}
    (hsplit : p.workList = missed ++ e :: rest) (hfirst : ∀ m ∈ missed, m.id ≠ e.id) :
    p.positionAfter? e.id = some (missed.length + 1) := by
  have hmissed : missed.findIdx? (·.id == e.id) = none := by
    rw [List.findIdx?_eq_none_iff]
    intro m hm
    exact beq_eq_false_iff_ne.2 (hfirst m hm)
  rw [positionAfter?, hsplit, List.findIdx?_append, hmissed, List.findIdx?_cons, if_pos (by simp)]
  simp

theorem restAfter_of_split (hd : ¬p.probesDisabled) {missed rest : List Descriptor.Entry}
    {e : Descriptor.Entry} (hsplit : p.workList = missed ++ e :: rest)
    (hfirst : ∀ m ∈ missed, m.id ≠ e.id) : p.restAfter (some e.id) = rest := by
  rw [restAfter_of_enabled p hd, Option.bind_some, positionAfter?_of_split p hsplit hfirst, hsplit]
  simp

/-- It is enough that no service that may answer has the id of one before it. -/
theorem resumes_of_pairwise
    (hids : p.workList.Pairwise fun e e' => allowed e'.url true → e.id ≠ e'.id) :
    p.Resumes allowed (p.restAfter none) := by
  by_cases hd : p.probesDisabled
  · rw [restAfter_of_disabled p hd]
    exact resumes_nil p
  rw [restAfter_none p hd]
  intro missed e rest hsplit hallowed
  have hfirst : ∀ m ∈ missed, m.id ≠ e.id := by
    intro m hm
    rw [hsplit, List.pairwise_append] at hids
    exact hids.2.2 m hm e (List.mem_cons_self ..) hallowed
  exact restAfter_of_split p hd hsplit hfirst

/-! ## The whole chain -/

/-- Services with the answers that the prober gave for them. -/
abbrev Visits := List (Descriptor.Entry × Bool)

namespace Visits

/-- The services that answered. -/
def reached (visits : Visits) : List Descriptor.Entry := (visits.filter (·.2)).map (·.1)

/-- The services that did not answer. -/
def missed (visits : Visits) : List Descriptor.Entry := (visits.filter (!·.2)).map (·.1)

def calls (visits : Visits) : Calls := visits.map fun v => (v.1.url, v.2)

/-- The visits of a search. -/
def ofSearch (missed rest : List Descriptor.Entry) : Visits :=
  missed.map (·, false) ++ rest.head?.toList.map (·, true)

theorem reached_append (vs ws : Visits) : reached (vs ++ ws) = reached vs ++ reached ws := by
  simp [reached]

theorem missed_append (vs ws : Visits) : missed (vs ++ ws) = missed vs ++ missed ws := by
  simp [missed]

theorem reached_ofSearch (es rest : List Descriptor.Entry) :
    reached (ofSearch es rest) = rest.head?.toList := by
  cases rest <;> simp [reached, ofSearch]

theorem missed_ofSearch (es rest : List Descriptor.Entry) : missed (ofSearch es rest) = es := by
  cases rest <;> simp [missed, ofSearch, List.filter_map, Function.comp_def]

theorem calls_ofSearch (es rest : List Descriptor.Entry) :
    calls (ofSearch es rest) = searchCalls es rest := by
  cases rest <;> simp [calls, ofSearch, searchCalls]

theorem allowed_ofSearch {allowed : String → Bool → Prop} {es missed rest : List Descriptor.Entry}
    (h : Search allowed es missed rest) : ∀ v ∈ ofSearch missed rest, allowed v.1.url v.2 := by
  intro v hv
  rcases List.mem_append.1 hv with hv | hv
  · obtain ⟨e, he, rfl⟩ := List.mem_map.1 hv
    exact h.missed_allowed e he
  · obtain ⟨e, he, rfl⟩ := List.mem_map.1 hv
    exact h.found_allowed e (Option.mem_toList.1 he)

/-- Every service answered or did not. -/
theorem reached_append_missed_perm (visits : Visits) :
    (reached visits ++ missed visits).Perm (visits.map (·.1)) := by
  rw [reached, missed, ← List.map_append]
  exact (List.filter_append_perm (·.2) visits).map _

end Visits

/-- The trace of a chain. -/
def traceOf (visits : Visits) : Trace where
  navigations := visits.reached.map p.signOutUrl
  skipped := visits.missed.map (·.id)
  endSessionUrl := p.endSessionUrlFor (Token.verdict now idToken) idToken

theorem ofHops_lastHop (missed : List Descriptor.Entry) :
    Trace.ofHops [p.hopAfter now idToken missed []] =
      p.traceOf now idToken (Visits.ofSearch missed []) := by
  rw [traceOf, Visits.reached_ofSearch, Visits.missed_ofSearch]
  simp [Trace.ofHops, hopAfter, lastHop, Hop.isDone]

theorem ofHops_cons (missed rest : List Descriptor.Entry) (e : Descriptor.Entry) (hs : List Hop)
    (visits : Visits) (h : Trace.ofHops hs = p.traceOf now idToken visits) :
    Trace.ofHops (p.hopAfter now idToken missed (e :: rest) :: hs) =
      p.traceOf now idToken (Visits.ofSearch missed (e :: rest) ++ visits) := by
  obtain ⟨hnav, hskip, hend⟩ := Trace.mk.inj h
  rw [traceOf, Visits.reached_append, Visits.missed_append, Visits.reached_ofSearch,
    Visits.missed_ofSearch]
  simp [Trace.ofHops, hopAfter, hopTo, Hop.isDone] at hnav hskip hend ⊢
  exact ⟨hnav, hskip, hend⟩

/-- A chain that resumes visits every service that is left, once and in order, with allowed answers,
and ends. -/
theorem exec_hopsFrom (hp : prober.Keeps allowed) : ∀ fuel lastId t,
    p.Resumes allowed (p.restAfter lastId) → (p.restAfter lastId).length < fuel →
      ∃ visits hs t', (p.hopsFrom prober now idToken fuel lastId).exec t = (.ok hs, t') ∧
        visits.map (·.1) = p.restAfter lastId ∧ t'.state.2 = t.state.2 ++ Visits.calls visits ∧
        Trace.ofHops hs = p.traceOf now idToken visits ∧ ∀ v ∈ visits, allowed v.1.url v.2
  | 0, _, _, _, hfuel => absurd hfuel (Nat.not_lt_zero _)
  | fuel + 1, lastId, t, hresumes, hfuel => by
    obtain ⟨missed, rest, t₁, hsearch, hstep, hcalls⟩ := exec_step p now idToken hp lastId t
    have hsplit := hsearch.split
    rw [hopsFrom, exec_bind_of_ok hstep]
    cases rest with
    | nil =>
      refine ⟨Visits.ofSearch missed [], _, t₁, rfl, ?_, ?_, ofHops_lastHop p now idToken missed,
        Visits.allowed_ofSearch hsearch⟩
      · rw [hsplit]
        simp [Visits.ofSearch, Function.comp_def]
      · rw [hcalls, Visits.calls_ofSearch]
    | cons e rest =>
      -- The chain goes on behind `e`, where fewer services are left.
      have hrest : p.restAfter (some e.id) = rest :=
        hresumes missed e rest hsplit (hsearch.found_allowed e rfl)
      have hlength : rest.length < fuel := by
        rw [hsplit, List.length_append, List.length_cons] at hfuel
        omega
      obtain ⟨visits, hs, t₂, hhops, hvisits, hcalls₂, htrace, hallowed⟩ :=
        exec_hopsFrom hp fuel (some e.id) t₁ (by rw [hrest]; exact (hsplit ▸ hresumes).tail)
          (by rw [hrest]; exact hlength)
      refine ⟨Visits.ofSearch missed (e :: rest) ++ visits, _, t₂, ?_, ?_, ?_,
        ofHops_cons p now idToken missed rest e hs visits htrace,
        List.forall_mem_append.2 ⟨Visits.allowed_ofSearch hsearch, hallowed⟩⟩
      · change (p.hopsFrom prober now idToken fuel (some e.id) >>= fun hs =>
          pure (p.hopAfter now idToken missed (e :: rest) :: hs)).exec t₁ = _
        rw [exec_bind_of_ok hhops, exec_pure]
      · rw [List.map_append, hvisits, hrest, hsplit]
        simp [Visits.ofSearch, Function.comp_def]
      · rw [hcalls₂, hcalls, ← Visits.calls_ofSearch]
        simp [Visits.calls]

theorem length_restAfter_none_le : (p.restAfter none).length ≤ p.workList.length := by
  by_cases hd : p.probesDisabled
  · rw [restAfter_of_disabled p hd]
    exact Nat.zero_le _
  · exact Nat.le_of_eq (congrArg List.length (restAfter_none p hd))

/-- A whole chain that resumes ends, and its trace is that of its visits. -/
theorem exec_run_allowed (hp : prober.Keeps allowed)
    (hresumes : p.Resumes allowed (p.restAfter none)) (t : Trail (σ × Calls)) :
    ∃ visits t', (p.run prober now idToken).exec t = (.ok (p.traceOf now idToken visits), t') ∧
      visits.map (·.1) = p.restAfter none ∧ t'.state.2 = t.state.2 ++ Visits.calls visits ∧
      ∀ v ∈ visits, allowed v.1.url v.2 := by
  obtain ⟨visits, hs, t', hhops, hvisits, hcalls, htrace, hallowed⟩ :=
    exec_hopsFrom p now idToken hp _ none t hresumes
      (Nat.lt_succ_of_le p.length_restAfter_none_le)
  refine ⟨visits, t', ?_, hvisits, hcalls, hallowed⟩
  unfold run hops
  rw [exec_bind_of_ok hhops, exec_pure, htrace]

theorem exec_run (hp : prober.Keeps allowed) (hresumes : p.Resumes allowed (p.restAfter none))
    (t : Trail (σ × Calls)) :
    ∃ visits t', (p.run prober now idToken).exec t = (.ok (p.traceOf now idToken visits), t') ∧
      visits.map (·.1) = p.restAfter none ∧ t'.state.2 = t.state.2 ++ Visits.calls visits := by
  obtain ⟨visits, t', hrun, hvisits, hcalls, -⟩ := exec_run_allowed p now idToken hp hresumes t
  exact ⟨visits, t', hrun, hvisits, hcalls⟩

/-! ## Distinct ids -/

/-- A chain that asks every service once, in order, and signs out those that answer. -/
structure Whole (visits : Visits) (calls : Calls) (trace : Trace) : Prop where
  services : visits.map (·.1) = p.workList
  calls : calls = visits.calls
  navigations : trace.navigations = visits.reached.map p.signOutUrl
  skipped : trace.skipped = visits.missed.map (·.id)
  partition : (visits.reached ++ visits.missed).Perm p.workList

/-- Where the services have distinct ids the chain ends, whatever the prober answers: it asks every
service once or, where probing is off, none. -/
theorem run_whole_of_nodup_ids (hids : (p.workList.map (·.id)).Nodup) {prober : Prober σ}
    (hp : prober.Answers) (t : Trail (σ × Calls)) :
    ∃ trace calls t', (p.run prober.recorded now idToken).exec t = (.ok trace, t') ∧
      (p.run prober now idToken).exec (erase t) = (.ok trace, erase t') ∧
      t'.state.2 = t.state.2 ++ calls ∧
      (∀ u : Trail σ, ((p.endSessionUrl now idToken).exec u).1 = .ok trace.endSessionUrl) ∧
      (¬p.probesDisabled → ∃ visits, p.Whole visits calls trace) ∧
      (p.probesDisabled → calls = [] ∧ trace.navigations = [] ∧ trace.skipped = []) := by
  have hpairwise : p.workList.Pairwise fun e e' => True → e.id ≠ e'.id :=
    (List.pairwise_map.1 hids).imp fun h _ => h
  obtain ⟨visits, t', hrun, hvisits, hcalls⟩ :=
    exec_run p now idToken hp.keeps (resumes_of_pairwise p hpairwise) t
  refine ⟨_, visits.calls, t', hrun, ?_, hcalls, ?_, ?_, ?_⟩
  · rw [erases_run p (Prober.erases_recorded prober) now idToken t, hrun]
  · intro u
    obtain ⟨log, hend⟩ := exec_endSessionUrl p now idToken u
    rw [hend]
    rfl
  · intro hd
    rw [restAfter_none p hd] at hvisits
    exact ⟨visits, hvisits, rfl, rfl, rfl, hvisits ▸ visits.reached_append_missed_perm⟩
  · intro hd
    rw [restAfter_of_disabled p hd, List.map_eq_nil_iff] at hvisits
    rw [hvisits]
    exact ⟨rfl, rfl, rfl⟩

/-- Services that only differ in their ids and addresses. -/
def sampleEntry (id url : String) : Descriptor.Entry where
  id := id
  name := id
  url := url
  isProtected := true
  access := .proxy
  roles := some ["user"]

/-- A portal with some services. -/
def samplePortal (services : List Descriptor.Entry) : Portal where
  settings := {
    portalUrl := "https://app.example.org"
    keycloakUrl := "https://auth.example.org"
    realm := "main"
    environment := "local" }
  descriptor := {
    version := Descriptor.currentVersion
    deploymentId := "demo"
    environment := "local"
    baseDomain := "example.org"
    portalUrl := "https://app.example.org"
    identityProvider := {
      publicUrl := "https://auth.example.org"
      issuerUrl := "https://auth.example.org/realms/main"
      realm := "main" }
    services := services }

/-- A prober that says yes on every second call. -/
def Prober.alternating : Prober Nat := fun _ => do
  let n ← Session.state
  Session.setState (n + 1)
  return n % 2 == 1

/-- Two services, the second of which answers. -/
theorem run_whole_of_pair :
    let p := samplePortal [sampleEntry "docs" "https://docs.example.org",
      sampleEntry "wiki" "https://wiki.example.org"]
    (p.workList.map (·.id)).Nodup ∧ Prober.alternating.Answers ∧
      ∃ trace calls t', (p.run Prober.alternating.recorded (.int 0) none).exec ⟨(0, []), []⟩ =
        (.ok trace, t') ∧ ∃ visits, p.Whole visits calls trace := by
  intro p
  have hids : (p.workList.map (·.id)).Nodup := by decide
  have hp : Prober.alternating.Answers := fun _ _ => ⟨_, _, rfl⟩
  obtain ⟨trace, calls, t', hrun, -, -, -, hwhole, -⟩ :=
    run_whole_of_nodup_ids p (.int 0) none hids hp ⟨(0, []), []⟩
  exact ⟨hids, hp, trace, calls, t', hrun, hwhole (by decide)⟩

end Portal
end StackCompiler
