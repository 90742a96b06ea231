import StackCompiler.Proofs.Cascade.Ending
import StackCompiler.Proofs.Cascade.Requests
import StackCompiler.Proofs.Text.Pattern

/-!
# Services with malformed addresses

A service that does not answer is skipped, and so is one whose address names no host. But an address
may satisfy the schema of descriptors and have an authority that no host can be taken from: then
the search breaks off, and the user stays signed in (`step_returns_iff`). What counts is the text
between the scheme and the path (`Url.authority_clean_of_isHttpUrl`).
-/

namespace StackCompiler

open Session

variable {σ : Type}

/-! ## Addresses -/

namespace Url

/-- No host can be taken from the authority of the address. -/
def IsRefused (url : String) : Prop := isMalformed (authority (clean url))

instance (url : String) : Decidable (IsRefused url) :=
  inferInstanceAs (Decidable (isMalformed (authority (clean url)) = true))

theorem host?_of_refused {url : String} (h : IsRefused url) : host? url = .error .badValue :=
  if_pos h

theorem exists_host?_of_not_refused {url : String} (h : ¬IsRefused url) :
    ∃ host, host? url = .ok host := ⟨_, if_neg h⟩

/-- An address that satisfies the schema of descriptors has nothing to clean away but a line feed. -/
theorem clean_of_isHttpUrl {url : String} (h : Text.isHttpUrl url) :
    clean url = Text.dropFinalNewline url.toList := by
  obtain ⟨scheme, rest, hscheme, hurl, hrest⟩ := Text.exists_of_isHttpUrl h
  have hunbroken : Text.Unbroken (Text.dropFinalNewline url.toList) := by
    rw [hurl, Text.unbroken_append, Text.unbroken_append]
    refine ⟨⟨?_, by decide⟩, hrest⟩
    rcases hscheme with rfl | rfl
    all_goals decide
  have hkept : ∀ c ∈ Text.dropFinalNewline url.toList, (!isBreak c) = true := by
    intro c hc
    have hblank := hunbroken c hc
    simp only [isBreak, Bool.not_eq_true', Bool.or_eq_false_iff, decide_eq_false_iff_not]
    refine ⟨⟨?_, ?_⟩, ?_⟩
    all_goals
      rintro rfl
      cases hblank
  obtain ⟨last, hlast, htext⟩ := Text.dropFinalNewline_append_last url.toList
  have hdropped : last.filter (!isBreak ·) = [] := by
    rcases hlast with rfl | rfl
    all_goals rfl
  have hstart : url.toList.dropWhile isControlOrSpace = url.toList := by
    rw [← htext, hurl]
    rcases hscheme with rfl | rfl
    all_goals rfl
  rw [clean, hstart]
  conv_lhs => rw [← htext]
  rw [List.filter_append, hdropped, List.append_nil, List.filter_eq_self.2 hkept]

/-- The authority of an address that satisfies the schema stands between the scheme and the path. -/
theorem authority_clean_of_isHttpUrl {url : String} (h : Text.isHttpUrl url) :
    ∃ scheme rest, (scheme = "http" ∨ scheme = "https") ∧
      Text.dropFinalNewline url.toList = scheme.toList ++ "://".toList ++ rest ∧
        authority (clean url) = rest.takeWhile (!endsAuthority ·) := by
  obtain ⟨scheme, rest, hscheme, hurl, -⟩ := Text.exists_of_isHttpUrl h
  refine ⟨scheme, rest, hscheme, hurl, ?_⟩
  rw [clean_of_isHttpUrl h, hurl]
  rcases hscheme with rfl | rfl
  · rfl
  · rfl

end Url

/-! ## Probes -/

namespace Probe

/-- Every request has an outcome. -/
def Network.Responds (network : Network σ) : Prop :=
  ∀ r t, ∃ outcome t', (network r).exec t = (.ok outcome, t')

/-- The network in which no request reaches a service. -/
def Network.silent : Network σ := fun _ => pure (.failed "no answer")

theorem Network.silent_responds : (Network.silent : Network σ).Responds := fun _ t => ⟨_, t, rfl⟩

variable {network : Network σ} (timeouts : Timeouts) (proxy : Option String) {url : String}

theorem exec_isReachable_of_refused (network : Network σ) (hurl : Url.IsRefused url) (t : Trail σ) :
    (isReachable network timeouts proxy url).exec t = (.error .badValue, t) := by
  rw [isReachable, Url.host?_of_refused hurl]
  rfl

theorem exists_exec_isReachable (hnetwork : network.Responds) (hurl : ¬Url.IsRefused url)
    (t : Trail σ) : ∃ answer t', (isReachable network timeouts proxy url).exec t =
      (.ok answer, t') := by
  obtain ⟨host, hhost⟩ := Url.exists_host?_of_not_refused hurl
  rw [isReachable, hhost, exec_bind_of_ok (exec_ofExcept _ t)]
  cases host with
  | none => exact ⟨_, _, rfl⟩
  | some host =>
    obtain ⟨outcome, t', hsend⟩ := hnetwork (request timeouts proxy url host) t
    dsimp only
    rw [exec_bind_of_ok hsend]
    cases outcome with
    | failed reason => exact ⟨_, _, rfl⟩
    | status code =>
      dsimp only
      cases isWithoutRoute proxy code
      · exact ⟨_, _, rfl⟩
      · exact ⟨_, _, rfl⟩

theorem exec_isReachable_silent (hurl : ¬Url.IsRefused url) (t : Trail σ) : ∃ t',
    (isReachable Network.silent timeouts proxy url).exec t = (.ok false, t') := by
  obtain ⟨host, hhost⟩ := Url.exists_host?_of_not_refused hurl
  rw [isReachable, hhost, exec_bind_of_ok (exec_ofExcept _ t)]
  cases host with
  | none => exact ⟨_, rfl⟩
  | some host => exact ⟨_, rfl⟩

end Probe

/-! ## Searches -/

namespace Portal

open Probe

/-- What a search comes to that misses some services and stops at the next of them. -/
def stopAt (missed rest : List Descriptor.Entry) :
    Except Failure (List String × Option Descriptor.Entry) :=
  match rest with
  | [] => .ok (missed.map (·.id), none)
  | e :: _ =>
    if Url.IsRefused e.url then .error .badValue else .ok (missed.map (·.id), some e)

theorem stopAt_cons (e : Descriptor.Entry) (missed rest : List Descriptor.Entry) :
    stopAt (e :: missed) rest = (stopAt missed rest).map fun r => (e.id :: r.1, r.2) := by
  cases rest with
  | nil => rfl
  | cons e' rest =>
    simp only [stopAt]
    split
    · rfl
    · rfl

variable {network : Network σ} (timeouts : Timeouts) (proxy : Option String)

/-- A search goes on after a service with an address of which a host can be taken. -/
theorem exec_findReachable_responds (hnetwork : network.Responds) : ∀ es t, ∃ missed rest t',
    es = missed ++ rest ∧ (∀ e ∈ missed, ¬Url.IsRefused e.url) ∧
      (findReachable (isReachable network timeouts proxy) es).exec t = (stopAt missed rest, t')
  | [], t => ⟨[], [], t, rfl, by simp, rfl⟩
  | e :: es, t => by
    by_cases hurl : Url.IsRefused e.url
    · have hprobe := exec_isReachable_of_refused timeouts proxy network hurl t
      refine ⟨[], e :: es, t, rfl, by simp, ?_⟩
      rw [findReachable, exec_bind_of_error hprobe, stopAt, if_pos hurl]
    obtain ⟨answer, t₁, hprobe⟩ := exists_exec_isReachable timeouts proxy hnetwork hurl t
    rw [findReachable, exec_bind_of_ok hprobe]
    cases answer with
    | true =>
      have hstop : stopAt [] (e :: es) = .ok ([], some e) := if_neg hurl
      rw [if_pos rfl, exec_note_bind]
      exact ⟨[], e :: es, _, rfl, by simp, hstop ▸ exec_pure _ _⟩
    | false =>
      rw [if_neg Bool.false_ne_true, exec_note_bind]
      obtain ⟨missed, rest, t₂, rfl, hmissed, hfind⟩ :=
        exec_findReachable_responds hnetwork es ⟨t₁.state, _⟩
      refine ⟨e :: missed, rest, t₂, rfl, List.forall_mem_cons.2 ⟨hurl, hmissed⟩, ?_⟩
      rw [exec_bind, hfind, stopAt_cons]
      cases stopAt missed rest <;> rfl

/-- Where no service answers, the search gets to the first address that is refused. -/
theorem exec_findReachable_silent : ∀ {es : List Descriptor.Entry},
    (∃ e ∈ es, Url.IsRefused e.url) → ∀ t : Trail σ, ∃ t',
      (findReachable (isReachable Network.silent timeouts proxy) es).exec t =
        (.error .badValue, t')
  | [], h, _ => by simp at h
  | e :: es, h, t => by
    rw [findReachable]
    by_cases hurl : Url.IsRefused e.url
    · exact ⟨t, exec_bind_of_error (exec_isReachable_of_refused timeouts proxy _ hurl t)⟩
    have hrest : ∃ e ∈ es, Url.IsRefused e.url := by simpa [hurl] using h
    obtain ⟨t₁, hprobe⟩ := exec_isReachable_silent timeouts proxy hurl t
    rw [exec_bind_of_ok hprobe, if_neg Bool.false_ne_true, exec_note_bind]
    obtain ⟨t₂, hfind⟩ := exec_findReachable_silent hrest ⟨t₁.state, _⟩
    exact ⟨t₂, exec_bind_of_error hfind⟩

/-! ## Hops -/

variable (p : Portal) (now : Number) (lastId idToken : Option String)

/-- Where requests have outcomes, a hop visits services up to the first address that is refused. -/
theorem exec_step_responds (hnetwork : network.Responds) (t : Trail σ) : ∃ missed rest t',
    p.restAfter lastId = missed ++ rest ∧ (∀ e ∈ missed, ¬Url.IsRefused e.url) ∧
      (p.step (p.prober timeouts network) now lastId idToken).exec t =
        ((stopAt missed rest).map
          (p.hopOf (p.endSessionUrlFor (Token.verdict now idToken) idToken)), t') := by
  obtain ⟨log, hstep⟩ := exec_step_of_search p (p.prober timeouts network) now lastId idToken t
  obtain ⟨missed, rest, t₁, hsplit, hmissed, hfind⟩ := exec_findReachable_responds timeouts
    p.settings.proxy? hnetwork (p.restAfter lastId) ⟨t.state, log⟩
  obtain ⟨log', hstep⟩ := hstep hfind
  exact ⟨missed, rest, _, hsplit, hmissed, hstep⟩

theorem exec_step_silent (h : ∃ e ∈ p.restAfter lastId, Url.IsRefused e.url) (t : Trail σ) :
    ∃ t', (p.step (p.prober timeouts Network.silent) now lastId idToken).exec t =
      (.error .badValue, t') := by
  obtain ⟨log, hstep⟩ :=
    exec_step_of_search p (p.prober timeouts Network.silent) now lastId idToken t
  obtain ⟨t₁, hfind⟩ := exec_findReachable_silent timeouts p.settings.proxy? h ⟨t.state, log⟩
  obtain ⟨log', hstep⟩ := hstep hfind
  exact ⟨_, hstep⟩

/-- Every probe of an address that satisfies the schema has an answer unless the authority of the
address is malformed, and where it names no host the service is taken for unreachable without being
asked. A hop visits services up to the first malformed address, which ends it; so it always comes to
a redirect exactly if none of the services that it may visit has such an address. -/
theorem step_returns_iff (t : Trail σ) :
    (∀ url, Text.isHttpUrl url → ∃ scheme rest, (scheme = "http" ∨ scheme = "https") ∧
      Text.dropFinalNewline url.toList = scheme.toList ++ "://".toList ++ rest ∧
      ((∀ network : Network σ, network.Responds → ∃ answer t',
          (p.prober timeouts network url).exec t = (.ok answer, t')) ↔
        ¬Url.isMalformed (rest.takeWhile (!Url.endsAuthority ·)))) ∧
    (∀ url, Url.host? url = .ok none → ∀ network : Network σ, ∃ log,
      (p.prober timeouts network url).exec t = (.ok false, ⟨t.state, log⟩)) ∧
    (∀ network : Network σ, network.Responds → ∃ missed rest t',
      p.restAfter lastId = missed ++ rest ∧ (∀ e ∈ missed, ¬Url.IsRefused e.url) ∧
        (p.step (p.prober timeouts network) now lastId idToken).exec t =
          ((stopAt missed rest).map
            (p.hopOf (p.endSessionUrlFor (Token.verdict now idToken) idToken)), t')) ∧
    ((∀ network : Network σ, network.Responds → ∃ hop t',
        (p.step (p.prober timeouts network) now lastId idToken).exec t = (.ok hop, t')) ↔
      ∀ e ∈ p.restAfter lastId, ¬Url.IsRefused e.url) := by
  refine ⟨fun url hurl => ?_, fun url hhost network => ?_,
    fun network hnetwork => exec_step_responds timeouts p now lastId idToken hnetwork t, ?_⟩
  · obtain ⟨scheme, rest, hscheme, hsplit, hauthority⟩ := Url.authority_clean_of_isHttpUrl hurl
    refine ⟨scheme, rest, hscheme, hsplit, ?_⟩
    rw [← hauthority]
    constructor
    · intro h hrefused
      obtain ⟨answer, t', hprobe⟩ := h Network.silent Network.silent_responds
      rw [prober, exec_isReachable_of_refused timeouts _ _ hrefused] at hprobe
      cases hprobe
    · exact fun hurl network hnetwork => exists_exec_isReachable timeouts _ hnetwork hurl t
  · rw [prober, isReachable, hhost, exec_bind_of_ok (exec_ofExcept _ t)]
    exact ⟨_, rfl⟩
  · constructor
    · intro h e he hrefused
      obtain ⟨hop, t', hstep⟩ := h Network.silent Network.silent_responds
      obtain ⟨t₁, herror⟩ := exec_step_silent timeouts p now lastId idToken ⟨e, he, hrefused⟩ t
      rw [hstep] at herror
      cases herror
    · intro h network hnetwork
      obtain ⟨missed, rest, t', hsplit, -, hstep⟩ :=
        exec_step_responds timeouts p now lastId idToken hnetwork t
      cases rest with
      | nil => exact ⟨_, t', hstep⟩
      | cons e rest =>
        have he : e ∈ p.restAfter lastId := by
          rw [hsplit]
          exact List.mem_append_right _ (List.mem_cons_self ..)
        rw [stopAt, if_neg (h e he)] at hstep
        exact ⟨_, t', hstep⟩

/-- The first of two services has an address with a bracket: a hop that starts after it returns, and
one that starts before it does not. -/
theorem step_returns_iff_bracket :
    let p := samplePortal [sampleEntry "docs" "https://docs[.example.org",
      sampleEntry "wiki" "https://wiki.example.org"]
    let timeouts : Timeouts := ⟨.ofRatio false 3 10, .ofRatio false 3 4⟩
    let Returns (lastId : Option String) : Prop := ∀ network : Network Unit, network.Responds →
      ∃ hop t', (p.step (p.prober timeouts network) (.int 0) lastId none).exec ⟨(), []⟩ =
        (.ok hop, t')
    Returns (some "docs") ∧ ¬Returns none := by
  intro p timeouts Returns
  obtain ⟨-, -, -, hafter⟩ := step_returns_iff timeouts p (.int 0) (some "docs") none ⟨(), []⟩
  obtain ⟨-, -, -, hbefore⟩ := step_returns_iff timeouts p (.int 0) none none ⟨(), []⟩
  exact ⟨hafter.2 (by decide +kernel), fun h => absurd (hbefore.1 h) (by decide +kernel)⟩

/-- The schema accepts a document with an address that ends every sign-out with an error. -/
theorem accepted_descriptor_without_hop :
    ¬∀ (document : Json) (p : Portal), (Descriptor.ofJson document).toOption = some p.descriptor →
      ∀ (network : Network Unit), network.Responds → ∀ timeouts now lastId idToken t, ∃ hop t',
        (p.step (p.prober timeouts network) now lastId idToken).exec t = (.ok hop, t') := by
  intro h
  let p := samplePortal [sampleEntry "docs" "https://docs[.example.org"]
  have htimeouts : Timeouts := ⟨.ofRatio false 3 10, .ofRatio false 3 4⟩
  obtain ⟨hop, t', hstep⟩ := h p.descriptor.toJson p (by decide +kernel) Network.silent
    Network.silent_responds htimeouts (.int 0) none none ⟨(), []⟩
  obtain ⟨t₁, herror⟩ := exec_step_silent htimeouts p (.int 0) none none
    ⟨sampleEntry "docs" "https://docs[.example.org", by decide, by decide +kernel⟩ ⟨(), []⟩
  rw [hstep] at herror
  cases herror

end Portal
end StackCompiler
