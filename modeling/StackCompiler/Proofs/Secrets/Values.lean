import StackCompiler.Proofs.Data.Entries
import StackCompiler.Proofs.Encoding.Utf8
import StackCompiler.Proofs.Machine
import StackCompiler.Secrets.Store

/-!
# Generated secrets

`Secrets.Sound` says that all secrets of some ids were generated, `Secrets.Supplied` that those of
some services are there besides. Generating what is missing, and generating anew, makes sound
secrets of sound ones (`yields_fillAll`, `yields_renew`).
-/

namespace StackCompiler.Secrets

open Machine

variable {ids more : List String} {id : String} {s : Secrets}
  {entries : List (String × String)}

/-! ## Generated values -/

/-- A value as `generate` makes them. -/
def IsGenerated (value : String) : Prop :=
  value.toList.length = valueLength ∧ ∀ c ∈ value.toList, c ∈ alphabet

theorem letter_mem_alphabet (choice : Nat) : letter choice ∈ alphabet := by
  have hlt : choice % alphabet.length < alphabet.length := Nat.mod_lt _ (by decide)
  rw [letter, List.getD_eq_getElem?_getD, List.getElem?_eq_getElem hlt]
  exact List.getElem_mem hlt

theorem yields_generateChars : ∀ n : Nat,
    Yields (generateChars n) fun cs => cs.length = n ∧ ∀ c ∈ cs, c ∈ alphabet
  | 0 => yields_pure ⟨rfl, fun _ h => absurd h List.not_mem_nil⟩
  | n + 1 => by
    refine yields_choose.bind fun choice _ => (yields_generateChars n).bind fun cs hcs => ?_
    exact yields_pure ⟨congrArg (· + 1) hcs.1,
      List.forall_mem_cons.2 ⟨letter_mem_alphabet choice, hcs.2⟩⟩

theorem yields_generate : Yields (generate valueLength) IsGenerated :=
  (yields_generateChars valueLength).bind fun cs hcs =>
    yields_pure (by rwa [IsGenerated, String.toList_ofList])

theorem IsGenerated.isEmpty_eq_false {value : String} (h : IsGenerated value) :
    value.isEmpty = false := by
  rw [← Bool.not_eq_true, String.isEmpty_iff]
  rintro rfl
  exact absurd h.1 (by decide)

theorem IsGenerated.ne_empty {value : String} (h : IsGenerated value) : value ≠ "" := by
  rintro rfl
  exact absurd h.1 (by decide)

theorem isAscii_of_mem_alphabet {c : Char} (h : c ∈ alphabet) : c.toNat < 128 := by
  have hall : alphabet.all fun c => c.toNat < 128 := by decide
  simpa using List.all_eq_true.1 hall c h

/-- Generated values are as long in bytes as in characters. -/
theorem IsGenerated.length_encode {value : String} (h : IsGenerated value) :
    (Utf8.encode value).length = valueLength := by
  rw [Utf8.encode, Utf8.length_encodeChars fun c hc => isAscii_of_mem_alphabet (h.2 c hc), h.1]

/-! ## Generated mappings -/

/-- A mapping of some ids to generated values. -/
structure GeneratedFor (ids : List String) (entries : List (String × String)) : Prop where
  keys_nodup : (entries.map (·.1)).Nodup
  ids : ∀ e ∈ entries, e.1 ∈ ids
  values : ∀ e ∈ entries, IsGenerated e.2

theorem GeneratedFor.mono (h : GeneratedFor ids entries) (hmore : ids ⊆ more) :
    GeneratedFor more entries := ⟨h.keys_nodup, fun e he => hmore (h.ids e he), h.values⟩

theorem GeneratedFor.perm {entries' : List (String × String)} (h : GeneratedFor ids entries)
    (hperm : entries'.Perm entries) : GeneratedFor ids entries' :=
  ⟨(hperm.map _).nodup_iff.2 h.keys_nodup, fun e he => h.ids e (hperm.mem_iff.1 he),
    fun e he => h.values e (hperm.mem_iff.1 he)⟩

theorem GeneratedFor.setEntry {value : String} (h : GeneratedFor ids entries) (hid : id ∈ ids)
    (hvalue : IsGenerated value) : GeneratedFor ids (setEntry id value entries) := by
  refine ⟨keys_nodup_setEntry h.keys_nodup, fun e he => ?_, fun e he => ?_⟩
  · have hmem := mem_keys_setEntry.1 (List.mem_map_of_mem he)
    rcases hmem with heq | hmem
    · exact heq ▸ hid
    · obtain ⟨e', he', heq⟩ := List.mem_map.1 hmem
      exact heq ▸ h.ids e' he'
  · rcases mem_setEntry he with heq | hmem
    · exact heq ▸ hvalue
    · exact h.values e hmem

theorem hasValue_setEntry_self {value : String} (hvalue : IsGenerated value) :
    hasValue (setEntry id value entries) id := by
  rw [hasValue, lookup_setEntry_self, Option.getD_some, hvalue.isEmpty_eq_false]
  rfl

theorem hasValue_setEntry {value other : String} (hvalue : IsGenerated value)
    (h : hasValue entries other) : hasValue (setEntry id value entries) other := by
  by_cases heq : other = id
  · exact heq ▸ hasValue_setEntry_self hvalue
  · rwa [hasValue, lookup_setEntry_of_ne heq]

/-- What is found under an id was generated. -/
theorem GeneratedFor.exists_lookup (h : GeneratedFor ids entries) (hid : hasValue entries id) :
    ∃ value, entries.lookup id = some value ∧ IsGenerated value := by
  cases hlookup : entries.lookup id with
  | none =>
    rw [hasValue, hlookup] at hid
    cases hid
  | some value => exact ⟨value, rfl, h.values _ (mem_of_lookup_eq_some hlookup)⟩

/-! ## Generated secrets -/

/-- Secrets of some ids, all of them generated. -/
structure Sound (ids : List String) (s : Secrets) : Prop where
  portal : s.portalClientSecret = "" ∨ IsGenerated s.portalClientSecret
  client : GeneratedFor ids s.clientSecrets
  cookie : GeneratedFor ids s.cookieSecrets

/-- Sound secrets with a portal secret and both secrets of each of some services. -/
structure Supplied (ids services : List String) (s : Secrets) : Prop where
  sound : s.Sound ids
  portal : IsGenerated s.portalClientSecret
  client : ∀ id ∈ services, hasValue s.clientSecrets id
  cookie : ∀ id ∈ services, hasValue s.cookieSecrets id

theorem generatedFor_nil : GeneratedFor ids [] :=
  ⟨List.nodup_nil, fun _ h => absurd h List.not_mem_nil, fun _ h => absurd h List.not_mem_nil⟩

theorem sound_empty : ({} : Secrets).Sound ids := ⟨.inl rfl, generatedFor_nil, generatedFor_nil⟩

theorem Sound.mono (h : s.Sound ids) (hmore : ids ⊆ more) : s.Sound more :=
  ⟨h.portal, h.client.mono hmore, h.cookie.mono hmore⟩

theorem Sound.supplied_of_isComplete (h : s.Sound ids) (hcomplete : s.isComplete more) :
    s.Supplied ids more := by
  rw [isComplete, Bool.and_eq_true, List.all_eq_true] at hcomplete
  obtain ⟨hportal, hmore⟩ := hcomplete
  have hvalues : ∀ id ∈ more, hasValue s.clientSecrets id ∧ hasValue s.cookieSecrets id :=
    fun id hid => by simpa using hmore id hid
  refine ⟨h, h.portal.resolve_left fun heq => ?_, fun id hid => (hvalues id hid).1,
    fun id hid => (hvalues id hid).2⟩
  rw [heq] at hportal
  cases hportal

/-! ## Filling and renewing -/

/-- A mapping in which an id has a value and all that had one before still do. -/
def Extends (ids : List String) (entries : List (String × String)) (id : String)
    (entries' : List (String × String)) : Prop :=
  GeneratedFor ids entries' ∧ hasValue entries' id ∧
    ∀ other, hasValue entries other → hasValue entries' other

theorem GeneratedFor.extends_setEntry {value : String} (h : GeneratedFor ids entries)
    (hid : id ∈ ids) (hvalue : IsGenerated value) :
    Extends ids entries id (StackCompiler.setEntry id value entries) :=
  ⟨h.setEntry hid hvalue, hasValue_setEntry_self hvalue, fun _ => hasValue_setEntry hvalue⟩

theorem yields_fill (h : GeneratedFor ids entries) (hid : id ∈ ids) :
    Yields (fill entries id) (Extends ids entries id) := by
  unfold fill
  split
  · exact yields_pure ⟨h, ‹_›, fun _ hother => hother⟩
  · exact yields_generate.bind fun value hvalue => yields_pure (h.extends_setEntry hid hvalue)

theorem yields_fillPortal (h : s.Sound ids) : Yields (fillPortal s) (Supplied ids []) := by
  have hnone : ∀ entries : List (String × String), ∀ id ∈ ([] : List String),
      hasValue entries id := fun _ _ hid => absurd hid List.not_mem_nil
  unfold fillPortal
  split
  · exact yields_generate.bind fun value hvalue =>
      yields_pure ⟨⟨.inr hvalue, h.client, h.cookie⟩, hvalue, hnone _, hnone _⟩
  · rename_i hportal
    refine yields_pure ⟨h, h.portal.resolve_left fun heq => hportal ?_, hnone _, hnone _⟩
    rw [heq]
    rfl

theorem yields_fillService (h : s.Supplied ids more) (hid : id ∈ ids) :
    Yields (fillService s id) (Supplied ids (more ++ [id])) := by
  refine (yields_fill h.sound.client hid).bind fun client hclient => ?_
  refine (yields_fill h.sound.cookie hid).bind fun cookie hcookie => ?_
  refine yields_pure ⟨⟨h.sound.portal, hclient.1, hcookie.1⟩, h.portal, ?_, ?_⟩
  · refine List.forall_mem_append.2 ⟨fun i hi => hclient.2.2 i (h.client i hi), ?_⟩
    exact List.forall_mem_singleton.2 hclient.2.1
  · refine List.forall_mem_append.2 ⟨fun i hi => hcookie.2.2 i (h.cookie i hi), ?_⟩
    exact List.forall_mem_singleton.2 hcookie.2.1

/-- Secrets with those of the portal and of some services generated where they are missing. -/
def fillAll (s : Secrets) (services : List String) : Action Secrets := do
  services.foldlM fillService (← fillPortal s)

theorem yields_fillAll (h : s.Sound ids) (hmore : more ⊆ ids) :
    Yields (fillAll s more) (Supplied ids more) :=
  (yields_fillPortal h).bind fun _ hs =>
    yields_foldlM (Supplied ids) (fun _ _ _ hid hsupplied => yields_fillService hsupplied hid) hmore
      [] hs

theorem yields_renewService (h : s.Sound ids) (hid : id ∈ ids) :
    Yields (renewService s id) (Sound ids) :=
  yields_generate.bind fun _ hclient => yields_generate.bind fun _ hcookie =>
    yields_pure ⟨h.portal, h.client.setEntry hid hclient, h.cookie.setEntry hid hcookie⟩

/-- Secrets with those of one service generated anew, or those of the portal and of all services. -/
def renew (s : Secrets) : Option String → Action Secrets
  | some id => renewService s id
  | none => do
    let renewed := { s with portalClientSecret := ← generate }
    (s.clientSecrets.map (·.1)).foldlM renewService renewed

theorem yields_renew (h : s.Sound ids) : ∀ {id : Option String}, id.toList ⊆ ids →
    Yields (renew s id) (Sound ids)
  | some _, hid => yields_renewService h (hid (List.mem_singleton_self _))
  | none, _ => by
    refine yields_generate.bind fun value hvalue => ?_
    have hids : s.clientSecrets.map (·.1) ⊆ ids := fun id hid => by
      obtain ⟨e, he, rfl⟩ := List.mem_map.1 hid
      exact h.client.ids e he
    exact yields_foldlM (fun _ => Sound ids) (fun _ _ _ hid hs => yields_renewService hs hid) hids
      [] ⟨.inr hvalue, h.client, h.cookie⟩

end StackCompiler.Secrets
