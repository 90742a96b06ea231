import StackCompiler.Proofs.Files.Saving
import StackCompiler.Proofs.Secrets.Store
import StackCompiler.Sidecar

/-!
# The secrets store over whole runs

`Secrets.Call` is a call of `ensure` or of `rotate`. After any calls on a store that did not exist
at first, it has both secrets of the ids that were passed, and of no others (`Secrets.Kept`); what a
further call changes is said for each kind of call (`Secrets.store_after_calls`).
-/

namespace StackCompiler

/-! ## Drawing values -/

namespace Machine

/-- The value that is generated next. -/
def nextSecret (m : Machine) : String :=
  String.ofList ((List.range Secrets.valueLength).map fun i =>
    Secrets.letter (m.choices (m.taken + i)))

/-- The machine after a value was generated. -/
def afterSecret (m : Machine) : Machine := { m with taken := m.taken + Secrets.valueLength }

end Machine

namespace Secrets

open Machine Session

variable {path : Path} {ids more : List String} {id : String} {s : Secrets}
  {entries : List (String × String)}

theorem exec_generateChars : ∀ (n : Nat) (t : Trail Machine), (generateChars n).exec t =
    (.ok ((List.range n).map fun i => letter (t.state.choices (t.state.taken + i))),
      { t with state := { t.state with taken := t.state.taken + n } })
  | 0, t => rfl
  | n + 1, t => by
    have hchoose : choose.exec t = (.ok (t.state.choices t.state.taken),
        { t with state := { t.state with taken := t.state.taken + 1 } }) := rfl
    have hadd : ∀ k, t.state.taken + 1 + k = t.state.taken + (k + 1) := by omega
    rw [generateChars, exec_bind_of_ok hchoose, exec_bind_of_ok (exec_generateChars n _), exec_pure,
      List.range_succ_eq_map, List.map_cons, List.map_map]
    simp only [hadd]
    rfl

theorem exec_generate (t : Trail Machine) :
    generate.exec t = (.ok t.state.nextSecret, { t with state := t.state.afterSecret }) := by
  rw [generate, exec_bind_of_ok (exec_generateChars valueLength t)]
  rfl

/-- The secrets with both values of an id set. -/
def renewed (s : Secrets) (id client cookie : String) : Secrets :=
  { s with
    clientSecrets := setEntry id client s.clientSecrets
    cookieSecrets := setEntry id cookie s.cookieSecrets }

/-- Both secrets of a service are drawn one after the other. -/
theorem exec_renewService (s : Secrets) (id : String) (t : Trail Machine) :
    (renewService s id).exec t =
      (.ok (s.renewed id t.state.nextSecret t.state.afterSecret.nextSecret),
      { t with state := t.state.afterSecret.afterSecret }) := by
  rw [renewService, exec_bind_of_ok (exec_generate t), exec_bind_of_ok (exec_generate _)]
  rfl

theorem isGenerated_nextSecret (m : Machine) : IsGenerated m.nextSecret := by
  refine ⟨?_, ?_⟩
  · rw [nextSecret, String.toList_ofList, List.length_map, List.length_range]
  · rw [nextSecret, String.toList_ofList]
    exact List.forall_mem_map.2 fun i _ => letter_mem_alphabet _

/-! ## Mappings with the ids that were passed -/

/-- A mapping of some ids, of all of them, to generated values. -/
structure Filled (ids : List String) (entries : List (String × String)) : Prop where
  keys_nodup : (entries.map (·.1)).Nodup
  mem_keys : ∀ id, id ∈ entries.map (·.1) ↔ id ∈ ids
  values : ∀ e ∈ entries, IsGenerated e.2

namespace Filled

theorem nil : Filled [] [] :=
  ⟨List.nodup_nil, fun _ => Iff.rfl, fun _ h => absurd h List.not_mem_nil⟩

theorem generatedFor (h : Filled ids entries) : GeneratedFor ids entries :=
  ⟨h.keys_nodup, fun e he => (h.mem_keys e.1).1 (List.mem_map_of_mem he), h.values⟩

theorem congr (h : Filled ids entries) (hids : ∀ id, id ∈ ids ↔ id ∈ more) : Filled more entries :=
  ⟨h.keys_nodup, fun id => (h.mem_keys id).trans (hids id), h.values⟩

theorem perm {entries' : List (String × String)} (h : Filled ids entries)
    (hperm : entries'.Perm entries) : Filled ids entries' :=
  ⟨(hperm.map _).nodup_iff.2 h.keys_nodup, fun id => (hperm.map _).mem_iff.trans (h.mem_keys id),
    fun e he => h.values e (hperm.mem_iff.1 he)⟩

theorem setEntry {value : String} (h : Filled ids entries) (hvalue : IsGenerated value) :
    Filled (ids ++ [id]) (setEntry id value entries) := by
  refine ⟨keys_nodup_setEntry h.keys_nodup, fun other => ?_, fun e he => ?_⟩
  · rw [mem_keys_setEntry, h.mem_keys, List.mem_append, List.mem_singleton]
    exact or_comm
  · rcases mem_setEntry he with heq | hmem
    · exact heq ▸ hvalue
    · exact h.values e hmem

/-- Just the ids that were passed have values. -/
theorem hasValue_iff (h : Filled ids entries) : hasValue entries id ↔ id ∈ ids := by
  rw [← h.mem_keys]
  constructor
  · intro hvalue
    obtain ⟨value, hlookup, -⟩ := h.generatedFor.exists_lookup hvalue
    exact List.mem_map.2 ⟨_, mem_of_lookup_eq_some hlookup, rfl⟩
  · intro hmem
    obtain ⟨e, he, rfl⟩ := List.mem_map.1 hmem
    rw [hasValue, lookup_eq_some_of_nodup h.keys_nodup he, Option.getD_some,
      (h.values e he).isEmpty_eq_false]
    rfl

end Filled

/-- A mapping to which ids were added, those before keeping their values. -/
structure Extended (ids : List String) (entries : List (String × String)) (more : List String)
    (entries' : List (String × String)) : Prop where
  filled : Filled (ids ++ more) entries'
  keeps : ∀ id ∈ ids, entries'.lookup id = entries.lookup id

theorem Filled.extended (h : Filled ids entries) : Extended ids entries [] entries :=
  ⟨h.congr fun _ => by rw [List.append_nil], fun _ _ => rfl⟩

theorem Extended.yields_fill {entries' : List (String × String)}
    (h : Extended ids entries more entries') (id : String) :
    Yields (fill entries' id) (Extended ids entries (more ++ [id])) := by
  unfold fill
  by_cases hvalue : hasValue entries' id
  · rw [if_pos hvalue]
    have hmem : id ∈ ids ++ more := h.filled.hasValue_iff.1 hvalue
    refine yields_pure ⟨h.filled.congr fun other => ?_, h.keeps⟩
    simp only [List.mem_append, List.mem_singleton] at hmem ⊢
    constructor
    · tauto
    · rintro (hother | hother | rfl)
      · exact .inl hother
      · exact .inr hother
      · exact hmem
  · rw [if_neg hvalue]
    have hnew : id ∉ ids := fun hmem =>
      hvalue (h.filled.hasValue_iff.2 (List.mem_append_left _ hmem))
    refine yields_generate.bind fun value hgenerated => yields_pure ⟨?_, fun other hother => ?_⟩
    · rw [← List.append_assoc]
      exact h.filled.setEntry hgenerated
    · have hne : other ≠ id := fun heq => hnew (heq ▸ hother)
      rw [lookup_setEntry_of_ne hne, h.keeps other hother]

/-! ## What the operations make -/

/-- Secrets to which those of some services were added where they were missing. -/
structure Grown (ids : List String) (s : Secrets) (more : List String) (s' : Secrets) : Prop where
  portal : IsGenerated s'.portalClientSecret
  portal_keeps : s.portalClientSecret ≠ "" → s'.portalClientSecret = s.portalClientSecret
  client : Extended ids s.clientSecrets more s'.clientSecrets
  cookie : Extended ids s.cookieSecrets more s'.cookieSecrets

theorem yields_fillAll_grown
    (hportal : s.portalClientSecret = "" ∨ IsGenerated s.portalClientSecret)
    (hclient : Filled ids s.clientSecrets) (hcookie : Filled ids s.cookieSecrets)
    (more : List String) : Yields (fillAll s more) (Grown ids s more) := by
  have hstart : Yields (fillPortal s) (Grown ids s []) := by
    unfold fillPortal
    by_cases hempty : s.portalClientSecret.isEmpty
    · rw [if_pos hempty]
      refine yields_generate.bind fun value hvalue => yields_pure ?_
      exact ⟨hvalue, fun hne => absurd (String.isEmpty_iff.1 hempty) hne, hclient.extended,
        hcookie.extended⟩
    · rw [if_neg hempty]
      refine yields_pure ⟨hportal.resolve_left fun heq => hempty ?_, fun _ => rfl,
        hclient.extended, hcookie.extended⟩
      rw [heq]
      rfl
  refine hstart.bind fun s₀ hs₀ => ?_
  refine yields_foldlM (Grown ids s) (fun done s' id _ hs' => ?_) (List.Subset.refl more) [] hs₀
  refine (hs'.client.yields_fill id).bind fun client hclient' => ?_
  refine (hs'.cookie.yields_fill id).bind fun cookie hcookie' => ?_
  exact yields_pure ⟨hs'.portal, hs'.portal_keeps, hclient', hcookie'⟩

/-- Secrets of the portal and of some ids, of all of them. -/
structure Full (ids : List String) (s : Secrets) : Prop where
  portal : IsGenerated s.portalClientSecret
  client : Filled ids s.clientSecrets
  cookie : Filled ids s.cookieSecrets

theorem yields_renewAll (hclient : Filled ids s.clientSecrets)
    (hcookie : Filled ids s.cookieSecrets) : Yields (renew s none) (Full ids) := by
  refine yields_generate.bind fun value hvalue => ?_
  refine yields_foldlM (fun _ => Full ids) (fun _ s' id hid hs' => ?_) (List.Subset.refl _) []
    ⟨hvalue, hclient, hcookie⟩
  have hknown : ∀ other, other ∈ ids ++ [id] ↔ other ∈ ids := fun other => by
    rw [List.mem_append, List.mem_singleton]
    exact or_iff_left_of_imp fun heq => heq ▸ (hclient.mem_keys id).1 hid
  refine yields_generate.bind fun client hclient' => ?_
  refine yields_generate.bind fun cookie hcookie' => yields_pure ?_
  exact ⟨hs'.portal, (hs'.client.setEntry hclient').congr hknown,
    (hs'.cookie.setEntry hcookie').congr hknown⟩

/-! ## Calls -/

/-- A call on the store. -/
inductive Call where
  | ensure (ids : List String)
  | rotate (id : Option String)

namespace Call

/-- The ids that are passed to a call. -/
def passed : Call → List String
  | ensure ids => ids
  | rotate id => id.toList

/-- Whether a call sees to the portal's secret. -/
def coversPortal : Call → Bool
  | ensure _ => true
  | rotate id => id.isNone

def run (path : Path) : Call → Action Secrets
  | ensure ids => Secrets.ensure path ids
  | rotate id => Secrets.rotate path id

end Call

/-- Calls one after the other. -/
def runAll (path : Path) (calls : List Call) : Action Unit :=
  calls.forM fun call => do let _ ← call.run path

/-- What a store holds after calls on it: both secrets of the ids that were passed to them, and the
portal's once a call has seen to it. -/
structure Kept (calls : List Call) (s : Secrets) : Prop where
  portal : if calls.any (·.coversPortal) then IsGenerated s.portalClientSecret
    else s.portalClientSecret = ""
  client : Filled (calls.flatMap Call.passed) s.clientSecrets
  cookie : Filled (calls.flatMap Call.passed) s.cookieSecrets

/-- The same secrets, whatever their order. -/
structure Same (s s' : Secrets) : Prop where
  portal : s.portalClientSecret = s'.portalClientSecret
  client : ∀ id, s.clientSecrets.lookup id = s'.clientSecrets.lookup id
  cookie : ∀ id, s.cookieSecrets.lookup id = s'.cookieSecrets.lookup id

/-- What `ensure` does to secrets: values stay, and none that is asked for is missing. -/
structure Ensured (s : Secrets) (ids : List String) (s' : Secrets) : Prop where
  portal : s.portalClientSecret ≠ "" → s'.portalClientSecret = s.portalClientSecret
  client : ∀ id, hasValue s.clientSecrets id →
    s'.clientSecrets.lookup id = s.clientSecrets.lookup id
  cookie : ∀ id, hasValue s.cookieSecrets id →
    s'.cookieSecrets.lookup id = s.cookieSecrets.lookup id
  complete : s'.isComplete ids

/-- What `rotate` does to secrets for one id: both of its values are replaced, all others stay. -/
structure Rotated (s : Secrets) (id client cookie : String) (s' : Secrets) : Prop where
  portal : s'.portalClientSecret = s.portalClientSecret
  client : s'.clientSecrets.lookup id = some client
  cookie : s'.cookieSecrets.lookup id = some cookie
  client_others : ∀ other, other ≠ id →
    s'.clientSecrets.lookup other = s.clientSecrets.lookup other
  cookie_others : ∀ other, other ≠ id →
    s'.cookieSecrets.lookup other = s.cookieSecrets.lookup other

section Kept

variable {calls : List Call} {s' : Secrets}

theorem kept_nil : Kept [] {} := ⟨rfl, .nil, .nil⟩

theorem Kept.portal_cases (h : s.Kept calls) :
    s.portalClientSecret = "" ∨ IsGenerated s.portalClientSecret := by
  have hportal := h.portal
  split at hportal
  · exact .inr hportal
  · exact .inl hportal

theorem Kept.sound (h : s.Kept calls) : s.Sound (calls.flatMap Call.passed) :=
  ⟨h.portal_cases, h.client.generatedFor, h.cookie.generatedFor⟩

theorem Kept.sorted (h : s.Kept calls) : s.sorted.Kept calls :=
  ⟨h.portal, h.client.perm (sorted_client s), h.cookie.perm (sorted_cookie s)⟩

theorem Kept.same_sorted (h : s.Kept calls) : s.sorted.Same s :=
  ⟨rfl, lookup_eq_of_perm h.client.keys_nodup (sorted_client s),
    lookup_eq_of_perm h.cookie.keys_nodup (sorted_cookie s)⟩

theorem Kept.readable (h : s.Kept calls)
    (hfits : ∀ id ∈ calls.flatMap Call.passed, Yaml.KeyFits id) : Readable path s := by
  refine readable_of_fits h.client.keys_nodup h.cookie.keys_nodup (fits_sheet ?_ ?_)
  · exact fun e he => hfits e.1 ((h.sorted.client.mem_keys e.1).1 (List.mem_map_of_mem he))
  · exact fun e he => hfits e.1 ((h.sorted.cookie.mem_keys e.1).1 (List.mem_map_of_mem he))

/-- After a call that sees to the portal. -/
theorem Kept.snoc {call : Call} (hportal : call.coversPortal)
    (h : s.Full (calls.flatMap Call.passed ++ call.passed)) : s.Kept (calls ++ [call]) := by
  have hids : (calls ++ [call]).flatMap Call.passed =
      calls.flatMap Call.passed ++ call.passed := by simp
  refine ⟨?_, hids ▸ h.client, hids ▸ h.cookie⟩
  rw [if_pos (by simp [hportal])]
  exact h.portal

theorem Kept.ensured (hgrown : Grown (calls.flatMap Call.passed) s ids s') :
    s'.Kept (calls ++ [.ensure ids]) :=
  Kept.snoc rfl ⟨hgrown.portal, hgrown.client.filled, hgrown.cookie.filled⟩

/-- Where nothing is missing, nothing has to be done. -/
theorem Kept.of_isComplete (h : s.Kept calls) (hcomplete : s.isComplete ids) :
    s.Kept (calls ++ [.ensure ids]) := by
  rw [isComplete, Bool.and_eq_true, List.all_eq_true] at hcomplete
  obtain ⟨hportal, hids⟩ := hcomplete
  have hknown : ∀ id, id ∈ calls.flatMap Call.passed ↔ id ∈ calls.flatMap Call.passed ++ ids := by
    intro id
    rw [List.mem_append]
    refine (or_iff_left_of_imp fun hid => h.client.hasValue_iff.1 ?_).symm
    exact (Bool.and_eq_true_iff.1 (hids id hid)).1
  refine Kept.snoc rfl ⟨h.portal_cases.resolve_left fun heq => ?_, h.client.congr hknown,
    h.cookie.congr hknown⟩
  rw [heq] at hportal
  cases hportal

theorem Kept.ensured_of_grown (h : s.Kept calls)
    (hgrown : Grown (calls.flatMap Call.passed) s ids s') : Ensured s ids s' := by
  refine ⟨hgrown.portal_keeps, fun id hid => hgrown.client.keeps id (h.client.hasValue_iff.1 hid),
    fun id hid => hgrown.cookie.keeps id (h.cookie.hasValue_iff.1 hid), ?_⟩
  rw [isComplete, Bool.and_eq_true, List.all_eq_true, hgrown.portal.isEmpty_eq_false]
  refine ⟨rfl, fun id hid => ?_⟩
  have hmem : id ∈ calls.flatMap Call.passed ++ ids := List.mem_append_right _ hid
  rw [Bool.and_eq_true]
  exact ⟨hgrown.client.filled.hasValue_iff.2 hmem, hgrown.cookie.filled.hasValue_iff.2 hmem⟩

theorem Kept.renewed {client cookie : String} (h : s.Kept calls) (id : String)
    (hclient : IsGenerated client) (hcookie : IsGenerated cookie) :
    (s.renewed id client cookie).Kept (calls ++ [.rotate id]) := by
  have hids : (calls ++ [Call.rotate (some id)]).flatMap Call.passed =
      calls.flatMap Call.passed ++ [id] := by simp [Call.passed]
  refine ⟨?_, hids ▸ h.client.setEntry hclient, hids ▸ h.cookie.setEntry hcookie⟩
  have hany : (calls ++ [Call.rotate (some id)]).any (·.coversPortal) =
      calls.any (·.coversPortal) := by simp [Call.coversPortal]
  rw [hany]
  exact h.portal

theorem rotated_renewed (s : Secrets) (id client cookie : String) :
    Rotated s id client cookie (s.renewed id client cookie) :=
  ⟨rfl, lookup_setEntry_self, lookup_setEntry_self, fun _ hne => lookup_setEntry_of_ne hne,
    fun _ hne => lookup_setEntry_of_ne hne⟩

end Kept

/-! ## Runs -/

/-- A store that calls have left, which can be written again. -/
structure Stores (path : Path) (calls : List Call) (s : Secrets) (m : Machine) : Prop where
  stored : stored path m.tree = .ok s
  kept : s.Kept calls
  fits : ∀ id ∈ calls.flatMap Call.passed, Yaml.KeyFits id
  writable : m.tree.Writable path
  isPrivate : calls ≠ [] → m.tree.IsPrivate path

theorem stores_start {m : Machine} (hnone : m.tree.contains path = .ok false)
    (hwritable : m.tree.Writable path) : Stores path [] {} m := by
  refine ⟨?_, kept_nil, fun _ h => absurd h List.not_mem_nil, hwritable, fun h => absurd rfl h⟩
  rw [Secrets.stored, hnone]
  rfl

section Runs

variable {calls : List Call} {call : Call} {t : Trail Machine}

theorem Stores.fits_snoc {m : Machine} (h : Stores path calls s m)
    (hcall : ∀ id ∈ call.passed, Yaml.KeyFits id) :
    ∀ id ∈ (calls ++ [call]).flatMap Call.passed, Yaml.KeyFits id := by
  rw [List.flatMap_append, List.flatMap_singleton]
  exact List.forall_mem_append.2 ⟨h.fits, hcall⟩

theorem exec_save (hwritable : t.state.tree.Writable path) (s : Secrets) :
    ∃ t', (save path s).exec t = (.ok (), t') ∧ t'.state.tree.Writable path ∧
      t'.state.tree.Holds path (Yaml.write s.toData) ∧ t'.state.tree.IsPrivate path := by
  obtain ⟨made, written, closed, hmade, hwritten, hclosed, hafter⟩ :=
    hwritable.exists_closed (Yaml.write s.toData)
  have hmake : (makeDirectory path.parent).exec t =
      (.ok (), { t with state := { t.state with tree := made } }) := by
    rw [makeDirectory, exec_changeTree, hmade]
  have hwrite : (Machine.write path (Yaml.write s.toData)).exec
      { t with state := { t.state with tree := made } } =
      (.ok (), { t with state := { t.state with tree := written } }) := by
    rw [Machine.write, exec_changeTree, hwritten]
  have hclose : (Machine.setMode path .ownerOnly).exec
      { t with state := { t.state with tree := written } } =
      (.ok (), { t with state := { t.state with tree := closed } }) := by
    rw [Machine.setMode, exec_changeTree, hclosed]
  unfold save
  rw [exec_bind_of_ok hmake, exec_bind_of_ok hwrite, exec_bind_of_ok hclose]
  exact ⟨_, rfl, hafter⟩

/-- Secrets that were made are saved, and then found where they were saved. -/
theorem exec_update {make : Action Secrets} (rest : Secrets → Action Secrets) {s : Secrets}
    {t₁ : Trail Machine} (hmake : make.exec t = (.ok s, t₁))
    (hwritable : t₁.state.tree.Writable path)
    (hrest : ∀ t, ∃ t', (rest s).exec t = (.ok s, t') ∧ t'.state.tree = t.state.tree)
    (hkept : s.Kept (calls ++ [call]))
    (hfits : ∀ id ∈ (calls ++ [call]).flatMap Call.passed, Yaml.KeyFits id) :
    ∃ t', (make >>= fun s => save path s >>= fun _ => rest s).exec t = (.ok s, t') ∧
      Stores path (calls ++ [call]) s.sorted t'.state := by
  obtain ⟨t₂, hsave, hwritable', hholds, hprivate⟩ := exec_save hwritable s
  obtain ⟨t₃, hrest, htree⟩ := hrest t₂
  refine ⟨t₃, ?_, ?_, hkept.sorted, hfits, htree ▸ hwritable', fun _ => htree ▸ hprivate⟩
  · rw [exec_bind_of_ok hmake, exec_bind_of_ok hsave, hrest]
  · rw [htree, stored_eq_of_holds hholds]
    exact hkept.readable hfits

/-- What a call of `ensure` returns is what is then found, and it writes nothing where nothing is
missing. -/
theorem Stores.exec_ensure (h : Stores path calls s t.state)
    (hids : ∀ id ∈ ids, Yaml.KeyFits id) :
    ∃ s' s'' t', (ensure path ids).exec t = (.ok s', t') ∧
      Stores path (calls ++ [.ensure ids]) s'' t'.state ∧ s''.Same s' ∧ Ensured s ids s' ∧
        (s.isComplete ids → t'.state.tree = t.state.tree) := by
  have hload : (load path).exec t = (.ok s, t) := by rw [exec_load, h.stored]
  have hfits : ∀ id ∈ (calls ++ [Call.ensure ids]).flatMap Call.passed, Yaml.KeyFits id :=
    h.fits_snoc hids
  rw [ensure_eq, exec_bind_of_ok hload]
  by_cases hcomplete : s.isComplete ids
  · simp only [if_pos hcomplete]
    refine ⟨s, s, _, rfl,
      ⟨h.stored, h.kept.of_isComplete hcomplete, hfits, h.writable, fun _ => ?_⟩,
      ⟨rfl, fun _ => rfl, fun _ => rfl⟩, ⟨fun _ => rfl, fun _ _ => rfl, fun _ _ => rfl, hcomplete⟩,
      fun _ => rfl⟩
    refine h.isPrivate fun hnil => ?_
    subst hnil
    rw [isComplete, h.kept.portal] at hcomplete
    cases hcomplete
  · simp only [if_neg hcomplete]
    obtain ⟨s', t₁, hmake, hgrown, htree⟩ :=
      yields_fillAll_grown h.kept.portal_cases h.kept.client h.kept.cookie ids t
    have hkept := Kept.ensured hgrown
    obtain ⟨t', hexec, hstores⟩ := exec_update pure hmake (htree ▸ h.writable)
      (fun t => ⟨t, rfl, rfl⟩) hkept hfits
    exact ⟨s', s'.sorted, t', hexec, hstores, hkept.same_sorted, h.kept.ensured_of_grown hgrown,
      fun hc => absurd hc hcomplete⟩

/-- What a call of `rotate` returns is what is then found. -/
theorem Stores.exec_rotate {id : Option String} (h : Stores path calls s t.state)
    (hid : ∀ i ∈ id.toList, Yaml.KeyFits i) {t₁ : Trail Machine} {s' : Secrets}
    (hmake : (renew s id).exec t = (.ok s', t₁))
    (htree : t₁.state.tree = t.state.tree) (hkept : s'.Kept (calls ++ [.rotate id])) :
    ∃ t', (rotate path id).exec t = (.ok s', t') ∧
      Stores path (calls ++ [.rotate id]) s'.sorted t'.state := by
  have hload : (load path).exec t = (.ok s, t) := by rw [exec_load, h.stored]
  rw [rotate_eq, exec_bind_of_ok hload]
  exact exec_update (fun s => said .info _ >>= fun _ => pure s) hmake (htree ▸ h.writable)
    (fun _ => ⟨_, rfl, rfl⟩) hkept (h.fits_snoc hid)

theorem Stores.exec_rotate_one (h : Stores path calls s t.state) (hid : Yaml.KeyFits id) :
    ∃ s' t', (rotate path (some id)).exec t = (.ok s', t') ∧
      Stores path (calls ++ [.rotate id]) s'.sorted t'.state ∧ s'.sorted.Same s' ∧
        Rotated s id t.state.nextSecret t.state.afterSecret.nextSecret s' := by
  have hkept := h.kept.renewed id (isGenerated_nextSecret t.state)
    (isGenerated_nextSecret t.state.afterSecret)
  have hmake : (renew s (some id)).exec t = _ := exec_renewService s id t
  have hids : ∀ i ∈ (some id).toList, Yaml.KeyFits i := List.forall_mem_singleton.2 hid
  obtain ⟨t', hexec, hstores⟩ := h.exec_rotate hids hmake rfl hkept
  exact ⟨_, t', hexec, hstores, hkept.same_sorted, rotated_renewed s id _ _⟩

theorem Stores.exec_rotate_all (h : Stores path calls s t.state) :
    ∃ s' t', (rotate path none).exec t = (.ok s', t') ∧
      Stores path (calls ++ [.rotate none]) s'.sorted t'.state ∧ s'.sorted.Same s' := by
  obtain ⟨s', t₁, hmake, hfull, htree⟩ := yields_renewAll h.kept.client h.kept.cookie t
  have hkept : s'.Kept (calls ++ [.rotate none]) :=
    Kept.snoc rfl ((List.append_nil (calls.flatMap Call.passed)).symm ▸ hfull)
  have hnone : ∀ i ∈ (none : Option String).toList, Yaml.KeyFits i :=
    fun _ h => absurd h List.not_mem_nil
  obtain ⟨t', hexec, hstores⟩ := h.exec_rotate hnone hmake htree hkept
  exact ⟨s', t', hexec, hstores, hkept.same_sorted⟩

/-- Any call returns what is then found. -/
theorem Stores.exec_call (h : Stores path calls s t.state)
    (hcall : ∀ id ∈ call.passed, Yaml.KeyFits id) :
    ∃ s' s'' t', (call.run path).exec t = (.ok s', t') ∧
      Stores path (calls ++ [call]) s'' t'.state ∧ s''.Same s' := by
  match call with
  | .ensure ids =>
    obtain ⟨s', s'', t', hexec, hstores, hsame, -⟩ := h.exec_ensure hcall
    exact ⟨s', s'', t', hexec, hstores, hsame⟩
  | .rotate (some id) =>
    obtain ⟨s', t', hexec, hstores, hsame, -⟩ :=
      h.exec_rotate_one (hcall id (List.mem_singleton_self id))
    exact ⟨s', _, t', hexec, hstores, hsame⟩
  | .rotate none =>
    obtain ⟨s', t', hexec, hstores, hsame⟩ := h.exec_rotate_all
    exact ⟨s', _, t', hexec, hstores, hsame⟩

/-- No call fails, so that a store is left after all of them. -/
theorem Stores.exec_runAll : ∀ {later calls : List Call} {s : Secrets} {t : Trail Machine},
    Stores path calls s t.state → (∀ call ∈ later, ∀ id ∈ call.passed, Yaml.KeyFits id) →
      ∃ s' t', (runAll path later).exec t = (.ok (), t') ∧
        Stores path (calls ++ later) s' t'.state
  | [], calls, s, t, h, _ => ⟨s, t, rfl, (List.append_nil calls).symm ▸ h⟩
  | call :: later, calls, s, t, h, hfits => by
    obtain ⟨hcall, hlater⟩ := List.forall_mem_cons.1 hfits
    obtain ⟨s', s'', t₁, hexec, hstores, -⟩ := h.exec_call hcall
    obtain ⟨s₂, t₂, hrest, hstores₂⟩ := Stores.exec_runAll hstores hlater
    refine ⟨s₂, t₂, ?_, List.append_cons calls call later ▸ hstores₂⟩
    have hrun : (call.run path >>= fun _ => pure ()).exec t = (.ok (), t₁) := by
      rw [exec_bind_of_ok hexec, exec_pure]
    change ((call.run path >>= fun _ => pure ()) >>= fun _ => runAll path later).exec t = _
    rw [exec_bind_of_ok hrun, hrest]

theorem Stores.exec_load (h : Stores path calls s t.state) :
    ((load path).exec t).1 = .ok s := by
  rw [Secrets.exec_load, h.stored]

end Runs

/-- After any calls on a store that did not exist at first, it holds both secrets of the ids that
were passed, in a file that its owner alone may read. What a further call returns is what is then
found; `ensure` keeps all values, and writes nothing where nothing is missing; `rotate` replaces the
two secrets of its id alone. -/
theorem store_after_calls {calls : List Call} {t : Trail Machine}
    (hnone : t.state.tree.contains path = .ok false) (hwritable : t.state.tree.Writable path)
    (hslugs : ∀ call ∈ calls, ∀ id ∈ call.passed, Text.isSlug id) :
    ∃ s t₁, (runAll path calls).exec t = (.ok (), t₁) ∧ ((load path).exec t₁).1 = .ok s ∧
      s.Kept calls ∧
      (∀ e ∈ s.cookieSecrets, (Utf8.encode e.2).length ∈ Sidecar.cookieSecretSizes) ∧
      (calls ≠ [] → t₁.state.tree.IsPrivate path) ∧
      (∀ call : Call, (∀ id ∈ call.passed, Text.isSlug id) → ∃ s' s'' t₂,
        (call.run path).exec t₁ = (.ok s', t₂) ∧ ((load path).exec t₂).1 = .ok s'' ∧
          s''.Same s' ∧ s''.Kept (calls ++ [call]) ∧ t₂.state.tree.IsPrivate path) ∧
      (∀ ids : List String, (∀ id ∈ ids, Text.isSlug id) → ∃ s' t₂,
        (ensure path ids).exec t₁ = (.ok s', t₂) ∧ Ensured s ids s' ∧
          (s.isComplete ids → t₂.state.tree = t₁.state.tree)) ∧
      ∀ id : String, Text.isSlug id → ∃ s' t₂, (rotate path (some id)).exec t₁ = (.ok s', t₂) ∧
        Rotated s id t₁.state.nextSecret t₁.state.afterSecret.nextSecret s' := by
  obtain ⟨s, t₁, hexec, hstores⟩ := (stores_start hnone hwritable).exec_runAll
    fun call hcall id hid => keyFits_of_isSlug (hslugs call hcall id hid)
  rw [List.nil_append] at hstores
  refine ⟨s, t₁, hexec, hstores.exec_load, hstores.kept, fun e he => ?_, hstores.isPrivate,
    fun call hcall => ?_, fun ids hids => ?_, fun id hid => ?_⟩
  · rw [(hstores.kept.cookie.values e he).length_encode]
    decide
  · obtain ⟨s', s'', t₂, hrun, hstores', hsame⟩ :=
      hstores.exec_call fun id hid => keyFits_of_isSlug (hcall id hid)
    exact ⟨s', s'', t₂, hrun, hstores'.exec_load, hsame, hstores'.kept,
      hstores'.isPrivate (by simp)⟩
  · obtain ⟨s', -, t₂, hrun, -, -, hensured, hsame⟩ :=
      hstores.exec_ensure fun id hid => keyFits_of_isSlug (hids id hid)
    exact ⟨s', t₂, hrun, hensured, hsame⟩
  · obtain ⟨s', t₂, hrun, -, -, hrotated⟩ := hstores.exec_rotate_one (keyFits_of_isSlug hid)
    exact ⟨s', t₂, hrun, hrotated⟩

def samplePath : Path := ⟨"", ["config", "secrets.yaml"]⟩

def sampleCalls : List Call := [.ensure ["web", "api"], .rotate (some "web"), .rotate none]

/-- Three calls where there are no files yet. -/
theorem store_after_sampleCalls : ∃ (s : Secrets) (t₁ : Trail Machine),
    (runAll samplePath sampleCalls).exec ⟨⟨{}, fun n => n, 0⟩, []⟩ = (.ok (), t₁) ∧
      s.Kept sampleCalls ∧ t₁.state.tree.IsPrivate samplePath := by
  have hwritable : Tree.Writable {} samplePath :=
    ⟨_, _, rfl, rfl⟩
  obtain ⟨s, t₁, hexec, -, hkept, -, hprivate, -⟩ := @store_after_calls samplePath sampleCalls
    ⟨⟨{}, fun n => n, 0⟩, []⟩ rfl hwritable (by decide)
  exact ⟨s, t₁, hexec, hkept, hprivate (List.cons_ne_nil _ _)⟩

end Secrets
end StackCompiler
