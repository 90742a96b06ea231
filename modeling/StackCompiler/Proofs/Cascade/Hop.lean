import StackCompiler.Proofs.Cascade.Requests

/-!
# One hop

A hop asks the services that are left after the one that sent the browser back (`Left`), up to the
first one that answers. What it was answered decides the hop (`IsHop`) whatever the prober, and the
identity token decides nothing but the address at the very end: neither an earlier redirect nor a
probe nor an event shows anything of it (`step_determined_by_answers`).
-/

namespace StackCompiler

namespace Portal

open Session

variable {σ : Type} (p : Portal) (now : Number) (lastId idToken : Option String)

/-! ## What is left -/

/-- The services that are left after the one that sent the browser back: those behind the first one
with its id, or all of them if none has it. Where probing is off none is left. -/
structure Left (left : List Descriptor.Entry) : Prop where
  disabled : p.probesDisabled → left = []
  unknown : ¬p.probesDisabled → (∀ e ∈ p.workList, some e.id ≠ lastId) → left = p.workList
  known : ¬p.probesDisabled → ∀ before e after, p.workList = before ++ e :: after →
    some e.id = lastId → (∀ m ∈ before, m.id ≠ e.id) → left = after

theorem restAfter_of_unknown (hd : ¬p.probesDisabled) (h : ∀ e ∈ p.workList, some e.id ≠ lastId) :
    p.restAfter lastId = p.workList := by
  cases lastId with
  | none => exact restAfter_none p hd
  | some id =>
    have hnone : p.workList.findIdx? (·.id == id) = none := by
      rw [List.findIdx?_eq_none_iff]
      exact fun e he => beq_eq_false_iff_ne.2 fun heq => h e he (congrArg some heq)
    rw [restAfter_of_enabled p hd, Option.bind_some, positionAfter?, hnone]
    exact List.drop_zero

theorem left_restAfter : p.Left lastId (p.restAfter lastId) := by
  constructor
  case disabled => exact fun hd => restAfter_of_disabled p hd lastId
  case unknown => exact restAfter_of_unknown p lastId
  case known =>
    rintro hd before e after hsplit rfl hfirst
    exact restAfter_of_split p hd hsplit hfirst

/-! ## Searches by any prober -/

/-- A search that missed some services and stopped at the next of them: at the end of the list, at a
service that answers, or at one whose probe fails. -/
inductive Searched (prober : Prober σ) (missed : List Descriptor.Entry) :
    List Descriptor.Entry → Except Failure (List String × Option Descriptor.Entry) → Calls → Prop
  | exhausted : Searched prober missed [] (.ok (missed.map (·.id), none))
      (missed.map fun e => (e.url, false))
  | found (e : Descriptor.Entry) (rest : List Descriptor.Entry) :
    Searched prober missed (e :: rest) (.ok (missed.map (·.id), some e))
      (missed.map (fun e => (e.url, false)) ++ [(e.url, true)])
  | failed {e : Descriptor.Entry} {f : Failure} {u : Trail σ} (rest : List Descriptor.Entry) :
    ((prober e.url).exec u).1 = .error f →
      Searched prober missed (e :: rest) (.error f) (missed.map fun e => (e.url, false))

theorem Searched.cons {prober : Prober σ} {missed rest : List Descriptor.Entry} {calls : Calls}
    {result : Except Failure (List String × Option Descriptor.Entry)}
    (h : Searched prober missed rest result calls) (e : Descriptor.Entry) :
    Searched prober (e :: missed) rest (result.map fun r => (e.id :: r.1, r.2))
      ((e.url, false) :: calls) := by
  cases h with
  | exhausted => exact .exhausted
  | found e' rest => exact .found e' rest
  | failed rest hf => exact .failed rest hf

/-- A call that fails is not listed. -/
theorem Prober.exec_recorded_of_error {prober : Prober σ} {url : String} {f : Failure}
    {t : Trail (σ × Calls)} (h : ((prober url).exec (erase t)).1 = .error f) :
    ∃ t', (prober.recorded url).exec t = (.error f, t') ∧ t'.state.2 = t.state.2 := by
  have hfirst : (onFirst (prober url)).exec t = (.error f,
      ⟨(((prober url).exec (erase t)).2.state, t.state.2), ((prober url).exec (erase t)).2.log⟩) := by
    rw [exec_onFirst, h]
  exact ⟨_, exec_bind_of_error hfirst, rfl⟩

/-- Whatever the prober, it is asked about the services in their order, up to the first one that
answers or whose probe fails. -/
theorem exec_findReachable_searched (prober : Prober σ) : ∀ es t, ∃ missed rest result calls t',
    es = missed ++ rest ∧ (findReachable prober.recorded es).exec t = (result, t') ∧
      t'.state.2 = t.state.2 ++ calls ∧ Searched prober missed rest result calls
  | [], t => ⟨[], [], _, _, t, rfl, rfl, (List.append_nil _).symm, .exhausted⟩
  | e :: es, t => by
    rw [findReachable]
    rcases hask : (prober e.url).exec (erase t) with ⟨f | answer, t₁⟩
    · have hf : ((prober e.url).exec (erase t)).1 = .error f := congrArg Prod.fst hask
      obtain ⟨t', hexec, hcalls⟩ := Prober.exec_recorded_of_error hf
      exact ⟨[], e :: es, _, _, t', rfl, exec_bind_of_error hexec,
        hcalls.trans (List.append_nil _).symm, .failed es hf⟩
    · rw [exec_bind_of_ok (Prober.exec_recorded hask)]
      cases answer with
      | true => exact ⟨[], e :: es, _, _, _, rfl, rfl, rfl, .found e es⟩
      | false =>
        rw [if_neg Bool.false_ne_true, exec_note_bind]
        generalize t₁.log ++ _ = log
        obtain ⟨missed, rest, result, calls, t₂, rfl, hfind, hcalls, hsearched⟩ :=
          exec_findReachable_searched prober es ⟨(t₁.state, t.state.2 ++ [(e.url, false)]), log⟩
        refine ⟨e :: missed, rest, _, _, t₂, rfl, ?_, ?_, hsearched.cons e⟩
        · rw [exec_bind, hfind]
          cases result <;> rfl
        · rw [hcalls, List.append_assoc, List.singleton_append]

/-! ## What a token changes -/

/-- A hop without the address at the identity provider. -/
def Hop.outline (hop : Hop) : Hop := if hop.isDone then { hop with redirectUrl := "" } else hop

/-- The records of events, without the mark that there was a token. -/
def events (log : List Log.Record) : List Log.Record :=
  (log.filter (·.event.isSome)).map fun r => { r with hasIdToken := none }

theorem events_append (log log' : List Log.Record) :
    events (log ++ log') = events log ++ events log' := by
  rw [events, List.filter_append, List.map_append]
  rfl

/-- Two hops that differ at most in the address at the identity provider. -/
structure SameButEnd (x y : Except Failure Hop × Trail σ) : Prop where
  outline : x.1.map Hop.outline = y.1.map Hop.outline
  state : x.2.state = y.2.state
  events : events x.2.log = events y.2.log

theorem SameButEnd.refl (x : Except Failure Hop × Trail σ) : SameButEnd x x := ⟨rfl, rfl, rfl⟩

/-- The search of a hop, which knows no token. -/
def search (prober : Prober σ) : Session σ (List String × Option Descriptor.Entry) := do
  noteStart lastId
  findReachable prober (← p.remaining lastId)

/-- What is done after the search of a hop. -/
def conclude (found : List String × Option Descriptor.Entry) : Session σ Hop :=
  match found.2 with
  | some e => return p.hopTo found.1 e
  | none => do
    noteEnd idToken
    return lastHop found.1 (← p.endSessionUrl now idToken)

theorem step_eq (prober : Prober σ) :
    p.step prober now lastId idToken = p.search lastId prober >>= p.conclude now idToken := by
  rw [step, search]
  simp only [bind_assoc]
  rfl

/-- Why a token is not used is noted, but is no event. -/
theorem exec_endSessionUrl_events (t : Trail σ) : ∃ log,
    (p.endSessionUrl now idToken).exec t =
        (.ok (p.endSessionUrlFor (Token.verdict now idToken) idToken), ⟨t.state, t.log ++ log⟩) ∧
      events log = [] := by
  unfold endSessionUrl
  cases Token.verdict now idToken with
  | malformed | expired => exact ⟨_, rfl, rfl⟩
  | absent | withoutExpiry | usable => exact ⟨[], by rw [List.append_nil]; rfl, rfl⟩

/-- The end of a hop with no service to go to. -/
theorem exec_conclude_none (skipped : List String) (t : Trail σ) : ∃ log,
    (p.conclude now idToken (skipped, none)).exec t =
        (.ok (lastHop skipped (p.endSessionUrlFor (Token.verdict now idToken) idToken)),
          ⟨t.state, t.log ++ log⟩) ∧
      events log = [⟨.info, Probe.logger, "Redirecting to Keycloak end-session",
        some "keycloak_logout_redirect", none, none⟩] := by
  let ending : Log.Record := ⟨.info, Probe.logger, "Redirecting to Keycloak end-session",
    some "keycloak_logout_redirect", none, some (idToken.any (!·.isEmpty))⟩
  have hnote : (noteEnd idToken).exec t = (.ok (), ⟨t.state, t.log ++ [ending]⟩) := rfl
  obtain ⟨log, hend, hlog⟩ := exec_endSessionUrl_events p now idToken ⟨t.state, t.log ++ [ending]⟩
  refine ⟨ending :: log, ?_, ?_⟩
  · dsimp only [conclude]
    rw [exec_bind_of_ok hnote, exec_bind_of_ok hend, exec_pure, List.append_assoc,
      List.singleton_append]
  · rw [← List.singleton_append, events_append, hlog]
    rfl

theorem sameButEnd_conclude (now' : Number) (idToken' : Option String)
    (found : List String × Option Descriptor.Entry) (t : Trail σ) :
    SameButEnd ((p.conclude now idToken found).exec t)
      ((p.conclude now' idToken' found).exec t) := by
  obtain ⟨skipped, _ | e⟩ := found
  · obtain ⟨log, hexec, hlog⟩ := exec_conclude_none p now idToken skipped t
    obtain ⟨log', hexec', hlog'⟩ := exec_conclude_none p now' idToken' skipped t
    rw [hexec, hexec']
    refine ⟨rfl, rfl, ?_⟩
    rw [events_append, events_append, hlog, hlog']
  · exact .refl _

theorem sameButEnd_step (prober : Prober σ) (now' : Number) (idToken' : Option String)
    (t : Trail σ) : SameButEnd ((p.step prober now lastId idToken).exec t)
      ((p.step prober now' lastId idToken').exec t) := by
  rw [step_eq, step_eq, exec_bind, exec_bind]
  rcases (p.search lastId prober).exec t with ⟨f | found, t₁⟩
  · exact .refl _
  · exact sameButEnd_conclude p now idToken now' idToken' found t₁

/-! ## The hop -/

/-- The hop that skips some services and goes to the first of the others, or to the identity
provider if there are none. -/
structure IsHop (missed rest : List Descriptor.Entry) (endUrl : String) (hop : Hop) : Prop where
  skipped : hop.skipped = missed.map (·.id)
  stages : hop.stages = .clearLocal :: missed.flatMap (fun _ => [.probeNext, .skipService]) ++
    if rest.isEmpty then [.done] else [.probeNext, .redirectToService]
  nextId : hop.nextId = rest.head?.map (·.id)
  redirectUrl : hop.redirectUrl = (rest.head?.map p.signOutUrl).getD endUrl
  clearedCookies : hop.clearedCookies =
    ["access_token", "oauth_state"] ++ if hop.isDone then ["id_token"] else []

theorem isHop_hopOf (missed rest : List Descriptor.Entry) (endUrl : String) :
    p.IsHop missed rest endUrl (p.hopOf endUrl (missed.map (·.id), rest.head?)) := by
  cases rest with
  | nil => exact ⟨rfl, by simp [hopOf, lastHop, skipStages, List.flatMap_map], rfl, rfl, rfl⟩
  | cons e rest => exact ⟨rfl, by simp [hopOf, hopTo, skipStages, List.flatMap_map], rfl, rfl, rfl⟩

/-- A hop skips the services that do not answer, up to the first of those left that does, and goes
there, or to the identity provider if none does; it ends with an error only where a probe does.
With another token, at another time, it differs at most in the address at the identity provider:
it has asked the same and reported the same events. -/
theorem step_determined_by_answers (prober : Prober σ) (t : Trail (σ × Calls)) :
    ∃ left missed rest endUrl result t', p.Left lastId left ∧ left = missed ++ rest ∧
      (∀ u : Trail σ, ((p.endSessionUrl now idToken).exec u).1 = .ok endUrl) ∧
      (p.step prober.recorded now lastId idToken).exec t = (result, t') ∧
      (p.step prober now lastId idToken).exec (erase t) = (result, erase t') ∧
      ((∃ hop, result = .ok hop ∧ p.IsHop missed rest endUrl hop ∧
          t'.state.2 = t.state.2 ++ (missed.map (fun e => (e.url, false)) ++
            rest.head?.toList.map fun e => (e.url, true))) ∨
        ∃ e ∈ rest.head?, ∃ f u, ((prober e.url).exec u).1 = .error f ∧ result = .error f ∧
          t'.state.2 = t.state.2 ++ missed.map fun e => (e.url, false)) ∧
      ∀ now' idToken', SameButEnd (result, t')
        ((p.step prober.recorded now' lastId idToken').exec t) := by
  let endUrl := p.endSessionUrlFor (Token.verdict now idToken) idToken
  have hend : ∀ u : Trail σ, ((p.endSessionUrl now idToken).exec u).1 = .ok endUrl := fun u => by
    obtain ⟨log, h⟩ := exec_endSessionUrl p now idToken u
    rw [h]
  obtain ⟨log, hstep⟩ := exec_step_of_search p prober.recorded now lastId idToken t
  obtain ⟨missed, rest, found, calls, t₁, hsplit, hfind, hcalls, hsearched⟩ :=
    exec_findReachable_searched prober (p.restAfter lastId) ⟨t.state, log⟩
  obtain ⟨log', hstep⟩ := hstep hfind
  refine ⟨_, missed, rest, endUrl, _, _, left_restAfter p lastId, hsplit, hend, hstep, ?_, ?_, ?_⟩
  · rw [erases_step p (Prober.erases_recorded prober) now lastId idToken t, hstep]
  · cases hsearched with
    | exhausted =>
      refine .inl ⟨_, rfl, isHop_hopOf p missed [] endUrl, ?_⟩
      rw [hcalls]
      simp
    | found e rest => exact .inl ⟨_, rfl, isHop_hopOf p missed (e :: rest) endUrl, hcalls⟩
    | failed rest hf => exact .inr ⟨_, rfl, _, _, hf, rfl, hcalls⟩
  · intro now' idToken'
    rw [← hstep]
    exact sameButEnd_step p now lastId idToken prober.recorded now' idToken' t

end Portal
end StackCompiler
