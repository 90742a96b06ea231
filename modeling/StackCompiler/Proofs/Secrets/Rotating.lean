import StackCompiler.Proofs.Secrets.Completing

/-!
# Rotating all secrets

Which services have their secrets renewed when all are rotated is found from the client secrets
alone. `Secrets.RotatedAll` says what becomes of every secret that was stored, and
`Secrets.rotate_replaces_iff` that all of them are replaced just where no service has a cookie secret
without a client secret.
-/

namespace StackCompiler

namespace Machine

/-- The value that is generated after some others. -/
def secretAt (m : Machine) : Nat → String
  | 0 => m.nextSecret
  | k + 1 => m.afterSecret.secretAt k

/-- The machine with another source of random choices. -/
def withChoices (m : Machine) (choices : Nat → Nat) : Machine := { m with choices }

/-- All values from a source that repeats itself are alike. -/
theorem secretAt_withChoices_const (choice k : Nat) : ∀ m : Machine,
    (m.withChoices fun _ => choice).secretAt k =
      String.ofList (List.replicate Secrets.valueLength (Secrets.letter choice)) := by
  induction k with
  | zero =>
    intro m
    rw [secretAt, nextSecret]
    simp only [withChoices, List.map_const', List.length_range]
  | succ k ih => exact fun m => ih m.afterSecret

end Machine

namespace Secrets

open Machine Session

variable {path : Path} {ids : List String} {id : String} {s s' : Secrets} {m : Machine}

/-! ## Renewing services -/

/-- The services that have a client secret. -/
def clientIds (s : Secrets) : List String := s.clientSecrets.map (·.1)

/-- The services that have a cookie secret. -/
def cookieIds (s : Secrets) : List String := s.cookieSecrets.map (·.1)

/-- Some services have both their secrets renewed, one service after the other. -/
structure Renewed (m : Machine) (ids : List String) (s s' : Secrets) : Prop where
  portal : s'.portalClientSecret = s.portalClientSecret
  client : ∀ i id, ids[i]? = some id → s'.clientSecrets.lookup id = some (m.secretAt (2 * i))
  cookie : ∀ i id, ids[i]? = some id → s'.cookieSecrets.lookup id = some (m.secretAt (2 * i + 1))
  client_others : ∀ id ∉ ids, s'.clientSecrets.lookup id = s.clientSecrets.lookup id
  cookie_others : ∀ id ∉ ids, s'.cookieSecrets.lookup id = s.cookieSecrets.lookup id

theorem Renewed.nil : Renewed m [] s s :=
  ⟨rfl, fun i _ h => by simp at h, fun i _ h => by simp at h, fun _ _ => rfl, fun _ _ => rfl⟩

theorem Renewed.cons (hid : id ∉ ids)
    (h : Renewed m.afterSecret.afterSecret ids
      (s.renewed id m.nextSecret m.afterSecret.nextSecret) s') :
    Renewed m (id :: ids) s s' := by
  refine ⟨h.portal, fun i other hi => ?_, fun i other hi => ?_, fun other hother => ?_,
    fun other hother => ?_⟩
  · cases i with
    | zero =>
      obtain rfl := Option.some.inj hi
      exact (h.client_others id hid).trans lookup_setEntry_self
    | succ i => exact h.client i other hi
  · cases i with
    | zero =>
      obtain rfl := Option.some.inj hi
      exact (h.cookie_others id hid).trans lookup_setEntry_self
    | succ i => exact h.cookie i other hi
  · rw [List.mem_cons, not_or] at hother
    exact (h.client_others other hother.2).trans (lookup_setEntry_of_ne hother.1)
  · rw [List.mem_cons, not_or] at hother
    exact (h.cookie_others other hother.2).trans (lookup_setEntry_of_ne hother.1)

theorem Distinct.renewed (h : s.Distinct) (id client cookie : String) :
    (s.renewed id client cookie).Distinct :=
  ⟨keys_nodup_setEntry h.client, keys_nodup_setEntry h.cookie⟩

theorem exec_renewAll : ∀ {ids : List String}, ids.Nodup → ∀ {s : Secrets}, s.Distinct →
    ∀ t : Trail Machine, ∃ s' t', (ids.foldlM renewService s).exec t = (.ok s', t') ∧
      t'.state.tree = t.state.tree ∧ Renewed t.state ids s s' ∧ s'.Distinct
  | [], _, s, hs, t => ⟨s, t, rfl, rfl, .nil, hs⟩
  | id :: ids, hnodup, s, hs, t => by
    obtain ⟨hid, hids⟩ := List.nodup_cons.1 hnodup
    have hfirst := exec_renewService s id t
    obtain ⟨s', t', hexec, htree, hrenewed, hs'⟩ :=
      exec_renewAll hids (hs.renewed id t.state.nextSecret t.state.afterSecret.nextSecret)
        { t with state := t.state.afterSecret.afterSecret }
    refine ⟨s', t', ?_, htree, hrenewed.cons hid, hs'⟩
    rw [List.foldlM_cons, exec_bind_of_ok hfirst, hexec]

/-! ## Rotating -/

/-- What becomes of the secrets when all are rotated: new values are generated for the portal and
then, two by two, for the services that have a client secret. A cookie secret of any other service
stays as it was. -/
structure RotatedAll (m : Machine) (s s' : Secrets) : Prop where
  portal : s'.portalClientSecret = m.secretAt 0
  client : ∀ i id, s.clientIds[i]? = some id →
    s'.clientSecrets.lookup id = some (m.secretAt (2 * i + 1))
  cookie : ∀ i id, s.clientIds[i]? = some id →
    s'.cookieSecrets.lookup id = some (m.secretAt (2 * i + 2))
  client_others : ∀ id ∉ s.clientIds, s'.clientSecrets.lookup id = none
  cookie_others : ∀ id ∉ s.clientIds, s'.cookieSecrets.lookup id = s.cookieSecrets.lookup id

theorem lookup_eq_none_of_not_mem {entries : List (String × String)}
    (h : id ∉ entries.map (·.1)) : entries.lookup id = none := by
  cases hlookup : entries.lookup id with
  | none => rfl
  | some value => exact absurd (List.mem_map_of_mem (mem_of_lookup_eq_some hlookup)) h

theorem Renewed.rotatedAll
    (h : Renewed m.afterSecret s.clientIds { s with portalClientSecret := m.nextSecret } s') :
    RotatedAll m s s' :=
  ⟨h.portal, h.client, h.cookie,
    fun id hid => (h.client_others id hid).trans (lookup_eq_none_of_not_mem hid), h.cookie_others⟩

theorem exec_renew_none (hs : s.Distinct) (t : Trail Machine) : ∃ s' t',
    (renew s none).exec t = (.ok s', t') ∧ t'.state.tree = t.state.tree ∧
      RotatedAll t.state s s' ∧ s'.Distinct := by
  have hportal : ({ s with portalClientSecret := t.state.nextSecret } : Secrets).Distinct :=
    ⟨hs.client, hs.cookie⟩
  obtain ⟨s', t', hexec, htree, hrenewed, hs'⟩ :=
    exec_renewAll hs.client hportal { t with state := t.state.afterSecret }
  refine ⟨s', t', ?_, htree, hrenewed.rotatedAll, hs'⟩
  rw [renew, exec_bind_of_ok (exec_generate t)]
  exact hexec

/-- Secrets in a file are rotated and saved there. -/
theorem exec_rotate_none {t : Trail Machine} {raw : String} (hfile : t.state.tree.Holds path raw)
    (hload : ((load path).exec t).1 = .ok s) : ∃ s' t',
      (rotate path none).exec t = (.ok s', t') ∧ RotatedAll t.state s s' ∧ s'.Distinct ∧
        t'.state.tree.Holds path (Yaml.write s'.toData) := by
  rw [exec_load] at hload
  have hwritable : t.state.tree.Writable path :=
    (Tree.holds_iff.1 hfile).1.occupied.settled.writable
  obtain ⟨s', t₁, hmake, htree, hrotated, hs'⟩ := exec_renew_none (distinct_of_stored hload) t
  obtain ⟨t₂, hsave, -, hholds, -⟩ := exec_save (htree ▸ hwritable) s'
  have hload' : (load path).exec t = (.ok s, t) := by rw [exec_load, ← hload]
  have hrun : ∃ t₃, (rotate path none).exec t = (.ok s', t₃) ∧ t₃.state = t₂.state := by
    rw [rotate_eq, exec_bind_of_ok hload', exec_bind_of_ok hmake, exec_bind_of_ok hsave]
    exact ⟨_, rfl, rfl⟩
  obtain ⟨t₃, hexec, hstate⟩ := hrun
  exact ⟨s', t₃, hexec, hrotated, hs', hstate ▸ hholds⟩

/-! ## Reading what was saved -/

theorem fits_sheet_iff : s.sheet.Fits ↔ (∀ id ∈ s.clientIds, Yaml.KeyFits id) ∧
    ∀ id ∈ s.cookieIds, Yaml.KeyFits id := by
  constructor
  · intro h
    exact ⟨(h ("client_secrets", .group s.clientSecrets) (List.mem_cons_self ..)).2,
      (h ("cookie_secrets", .group s.cookieSecrets)
        (List.mem_cons_of_mem _ (List.mem_cons_self ..))).2⟩
  · rintro ⟨hclient, hcookie⟩
    exact fits_sheet (List.forall_mem_map.1 hclient) (List.forall_mem_map.1 hcookie)

theorem fits_sorted_iff : s.sorted.sheet.Fits ↔ (∀ id ∈ s.clientIds, Yaml.KeyFits id) ∧
    ∀ id ∈ s.cookieIds, Yaml.KeyFits id := by
  have hclient := fun id => ((sorted_client s).map (·.1)).mem_iff (a := id)
  have hcookie := fun id => ((sorted_cookie s).map (·.1)).mem_iff (a := id)
  rw [fits_sheet_iff]
  simp only [clientIds, cookieIds, hclient, hcookie]

/-- Whether the secrets of a file are found again depends on their ids alone. -/
theorem exec_load_of_holds {t : Trail Machine} (hs : s.Distinct)
    (hfile : t.state.tree.Holds path (Yaml.write s.toData)) :
    (load path).exec t = (.ok s.sorted, t) ↔
      (∀ id ∈ s.clientIds, Yaml.KeyFits id) ∧ ∀ id ∈ s.cookieIds, Yaml.KeyFits id := by
  have hstored : stored path t.state.tree = ofText path s.savedText := stored_eq_of_holds hfile
  rw [exec_load, hstored, ← fits_sorted_iff]
  by_cases hfits : s.sorted.sheet.Fits
  · have hreadable : ofText path s.savedText = .ok s.sorted :=
      readable_of_fits hs.client hs.cookie hfits
    rw [hreadable]
    exact iff_of_true rfl hfits
  · obtain ⟨f, hf⟩ := exists_ofText_error path hfits
    rw [hf]
    exact iff_of_false (fun h => by cases h) hfits

/-! ## What is replaced -/

/-- A value that is generated when all secrets are rotated. -/
def IsNew (m : Machine) (s : Secrets) (value : String) : Prop :=
  ∃ k ≤ 2 * s.clientSecrets.length, value = m.secretAt k

/-- A new value stands for each of some ids. -/
def ReplacedIn (m : Machine) (s : Secrets) (ids : List String) (entries : List (String × String)) :
    Prop := ∀ id ∈ ids, ∃ value, entries.lookup id = some value ∧ IsNew m s value

/-- All secrets of a file have been replaced: new values stand for them, of which the file was
written. -/
structure ReplacedAll (path : Path) (m : Machine) (s s' : Secrets) (tree : Tree) : Prop where
  portal : IsNew m s s'.portalClientSecret
  client : ReplacedIn m s s.clientIds s'.clientSecrets
  cookie : ReplacedIn m s s.cookieIds s'.cookieSecrets
  saved : tree.Holds path (Yaml.write s'.toData)

theorem RotatedAll.replacedIn_clientIds (h : RotatedAll m s s') :
    ReplacedIn m s s.clientIds s'.clientSecrets ∧ ReplacedIn m s s.clientIds s'.cookieSecrets := by
  have hlength : s.clientIds.length = s.clientSecrets.length := List.length_map _
  constructor
  · intro id hid
    obtain ⟨i, hi, heq⟩ := List.mem_iff_getElem.1 hid
    exact ⟨_, h.client i id (heq ▸ List.getElem?_eq_getElem hi), _, by omega, rfl⟩
  · intro id hid
    obtain ⟨i, hi, heq⟩ := List.mem_iff_getElem.1 hid
    exact ⟨_, h.cookie i id (heq ▸ List.getElem?_eq_getElem hi), _, by omega, rfl⟩

theorem RotatedAll.replacedAll {tree : Tree} (h : RotatedAll m s s')
    (hids : s.cookieIds ⊆ s.clientIds) (hsaved : tree.Holds path (Yaml.write s'.toData)) :
    ReplacedAll path m s s' tree :=
  ⟨⟨0, Nat.zero_le _, h.portal⟩, h.replacedIn_clientIds.1,
    fun id hid => h.replacedIn_clientIds.2 id (hids hid), hsaved⟩

/-- No text is a new value whatever the choices. -/
theorem not_isNew_of_forall (m : Machine) (value : String) :
    ¬∀ choices, IsNew (m.withChoices choices) s value := by
  intro h
  obtain ⟨k, -, hvalue⟩ := h fun _ => 0
  obtain ⟨k', -, hvalue'⟩ := h fun _ => 1
  rw [secretAt_withChoices_const] at hvalue hvalue'
  exact absurd (hvalue.symm.trans hvalue') (by decide)

/-- No service loses a secret. -/
theorem RotatedAll.keeps_ids (h : RotatedAll m s s') :
    s.clientIds ⊆ s'.clientIds ∧ s.cookieIds ⊆ s'.cookieIds := by
  have hmem : ∀ {entries : List (String × String)} {id value : String},
      entries.lookup id = some value → id ∈ entries.map (·.1) := fun hlookup =>
    List.mem_map_of_mem (mem_of_lookup_eq_some hlookup)
  constructor
  · intro id hid
    obtain ⟨value, hlookup, -⟩ := h.replacedIn_clientIds.1 id hid
    exact hmem hlookup
  · intro id hid
    by_cases hclient : id ∈ s.clientIds
    · obtain ⟨value, hlookup, -⟩ := h.replacedIn_clientIds.2 id hclient
      exact hmem hlookup
    · by_contra hnone
      have hlookup : s.cookieSecrets.lookup id = none :=
        (h.cookie_others id hclient).symm.trans (lookup_eq_none_of_not_mem hnone)
      obtain ⟨e, he, rfl⟩ := List.mem_map.1 hid
      simpa using List.lookup_eq_none_iff.1 hlookup e he

section Rotation

variable {t : Trail Machine} {raw : String}

theorem exec_rotate_withChoices (hfile : t.state.tree.Holds path raw)
    (hload : ((load path).exec t).1 = .ok s) (choices : Nat → Nat) : ∃ s' t',
      (rotate path none).exec { t with state := t.state.withChoices choices } = (.ok s', t') ∧
        RotatedAll (t.state.withChoices choices) s s' ∧
        t'.state.tree.Holds path (Yaml.write s'.toData) := by
  rw [exec_load] at hload
  obtain ⟨s', t', hexec, hrotated, -, hholds⟩ :=
    exec_rotate_none (t := { t with state := t.state.withChoices choices }) hfile
      (by rw [exec_load]; exact hload)
  exact ⟨s', t', hexec, hrotated, hholds⟩

/-- A cookie secret of a service without a client secret is left. -/
theorem cookieIds_subset_of_replacedAll (hfile : t.state.tree.Holds path raw)
    (hload : ((load path).exec t).1 = .ok s)
    (h : ∀ choices, ∃ s' t',
      (rotate path none).exec { t with state := t.state.withChoices choices } = (.ok s', t') ∧
        ReplacedAll path (t.state.withChoices choices) s s' t'.state.tree) :
    s.cookieIds ⊆ s.clientIds := by
  intro id hid
  by_contra hclient
  have hdistinct : s.Distinct := distinct_of_stored (by rwa [exec_load] at hload)
  obtain ⟨⟨id, value⟩, he, rfl⟩ := List.mem_map.1 hid
  have hstored := lookup_eq_some_of_nodup hdistinct.cookie he
  refine not_isNew_of_forall (s := s) t.state value fun choices => ?_
  obtain ⟨s', t', hexec, hreplaced⟩ := h choices
  obtain ⟨s'', t'', hexec', hrotated, -⟩ := exec_rotate_withChoices hfile hload choices
  have hsame : s'' = s' := by
    rw [hexec'] at hexec
    exact Except.ok.inj (congrArg Prod.fst hexec)
  obtain ⟨value', hlookup, hnew⟩ := hreplaced.cookie id hid
  rw [← hsame, hrotated.cookie_others id hclient, hstored] at hlookup
  exact Option.some.inj hlookup ▸ hnew

/-- A rotation of all secrets in a file succeeds, whatever the file. No service loses a secret; the
file then holds what was made of the secrets, and is read again if its ids can be. Whatever the random
choices, nothing of what was stored is left just where every service with a cookie secret has a
client secret. -/
theorem rotate_replaces_iff (hfile : t.state.tree.Holds path raw)
    (hload : ((load path).exec t).1 = .ok s) :
    (∃ s' t', (rotate path none).exec t = (.ok s', t') ∧ RotatedAll t.state s s' ∧
        s.clientIds ⊆ s'.clientIds ∧ s.cookieIds ⊆ s'.cookieIds ∧
        t'.state.tree.Holds path (Yaml.write s'.toData) ∧ s'.sorted.Same s' ∧
        ((load path).exec t' = (.ok s'.sorted, t') ↔
          (∀ id ∈ s'.clientIds, Yaml.KeyFits id) ∧ ∀ id ∈ s'.cookieIds, Yaml.KeyFits id)) ∧
      ((∀ choices, ∃ s' t',
          (rotate path none).exec { t with state := t.state.withChoices choices } = (.ok s', t') ∧
            ReplacedAll path (t.state.withChoices choices) s s' t'.state.tree) ↔
        s.cookieIds ⊆ s.clientIds) := by
  refine ⟨?_, cookieIds_subset_of_replacedAll hfile hload, fun hids choices => ?_⟩
  · obtain ⟨s', t', hexec, hrotated, hs', hholds⟩ := exec_rotate_none hfile hload
    exact ⟨s', t', hexec, hrotated, hrotated.keeps_ids.1, hrotated.keeps_ids.2, hholds,
      hs'.same_sorted, exec_load_of_holds hs' hholds⟩
  · obtain ⟨s', t', hexec, hrotated, hholds⟩ := exec_rotate_withChoices hfile hload choices
    exact ⟨s', t', hexec, hrotated.replacedAll hids hholds⟩

end Rotation

/-! ## A file without a client secret -/

def storePath : Path := ⟨"", ["secrets.yaml"]⟩

/-- A machine with one file of secrets. -/
def storeOf (text : String) : Trail Machine :=
  ⟨⟨{ files := [(["secrets.yaml"], { text })] }, fun n => n, 0⟩, []⟩

theorem holds_storeOf (text : String) : (storeOf text).state.tree.Holds storePath text :=
  ⟨["secrets.yaml"], { text }, rfl, Bool.false_ne_true, rfl, rfl⟩

theorem exec_load_storeOf {text : String}
    (h : (ofText storePath (String.ofList (Text.plainLineEnds text.toList))).toOption = some s) :
    ((load storePath).exec (storeOf text)).1 = .ok s := by
  rw [exec_load, stored_eq_of_holds (holds_storeOf text)]
  exact toOption_eq_some_iff.1 h

def cookieText : String := "cookie_secrets:\n  docs: 0123456789abcdef\n"

def cookieStore : Secrets where
  cookieSecrets := [("docs", "0123456789abcdef")]

theorem exec_load_cookieText : ((load storePath).exec (storeOf cookieText)).1 = .ok cookieStore :=
  exec_load_storeOf (by decide +kernel)

/-- The cookie secret of a service that has no client secret outlasts a rotation of all secrets. -/
theorem cookie_secret_outlasts_rotation :
    ((load storePath).exec (storeOf cookieText)).1 = .ok cookieStore ∧ ∃ s' t',
      (rotate storePath none).exec (storeOf cookieText) = (.ok s', t') ∧
        s'.cookieSecrets.lookup "docs" = cookieStore.cookieSecrets.lookup "docs" ∧
        ¬ReplacedAll storePath (storeOf cookieText).state cookieStore s' t'.state.tree := by
  obtain ⟨s', t', hexec, hrotated, -, -⟩ :=
    exec_rotate_none (holds_storeOf cookieText) exec_load_cookieText
  have hkept := hrotated.cookie_others "docs" List.not_mem_nil
  refine ⟨exec_load_cookieText, s', t', hexec, hkept, fun hreplaced => ?_⟩
  obtain ⟨value, hlookup, k, hk, rfl⟩ := hreplaced.cookie "docs" (List.mem_singleton_self _)
  rw [hkept] at hlookup
  obtain rfl : k = 0 := Nat.le_zero.1 hk
  have hold : (storeOf cookieText).state.secretAt 0 = "0123456789abcdef" :=
    (Option.some.inj hlookup).symm
  have hlength := (isGenerated_nextSecret (storeOf cookieText).state).1
  rw [secretAt] at hold
  rw [hold] at hlength
  cases hlength

/-- A file with both secrets of a service. -/
theorem rotate_replaces_iff_docs : let text :=
      "client_secrets:\n  docs: client\ncookie_secrets:\n  docs: 0123456789abcdef\n"
    let s : Secrets := {
      clientSecrets := [("docs", "client")], cookieSecrets := [("docs", "0123456789abcdef")] }
    (storeOf text).state.tree.Holds storePath text ∧
      ((load storePath).exec (storeOf text)).1 = .ok s ∧
      ∀ choices, ∃ s' t', (rotate storePath none).exec
          { storeOf text with state := (storeOf text).state.withChoices choices } = (.ok s', t') ∧
        ReplacedAll storePath ((storeOf text).state.withChoices choices) s s' t'.state.tree := by
  intro text s
  have hload : ((load storePath).exec (storeOf text)).1 = .ok s :=
    exec_load_storeOf (by decide +kernel)
  refine ⟨holds_storeOf text, hload, (rotate_replaces_iff (holds_storeOf text) hload).2.2 ?_⟩
  exact fun _ h => h

end Secrets
end StackCompiler
