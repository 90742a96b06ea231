import StackCompiler.Proofs.Files.Growing
import StackCompiler.Proofs.Secrets.Calls

/-!
# Completing any store

Whatever is stored at a path, `ensure` does one of two things if it succeeds
(`Secrets.ensuredIn_of_exec_ensure`): nothing is missing and nothing is written, or the secrets with
what was missing are put there. What is stored then is complete, so that completing it again changes
nothing (`Secrets.exec_ensure_of_stored`).
-/

namespace StackCompiler.Secrets

open Machine Session

variable {path : Path} {ids : List String} {id : String} {s s' : Secrets}
  {entries : List (String × String)} {t t' : Trail Machine}

/-! ## Independence of the log -/

theorem blind_generate : Blind (generate valueLength) := by
  have hchars : ∀ n, Blind (generateChars n) := by
    intro n
    induction n with
    | zero => exact blind_pure _
    | succ n ih => exact blind_choose.bind fun _ => ih.bind fun _ => blind_pure _
  exact (hchars _).bind fun _ => blind_pure _

theorem blind_fill (entries : List (String × String)) (id : String) : Blind (fill entries id) := by
  unfold fill
  split
  · exact blind_pure _
  · exact blind_generate.bind fun _ => blind_pure _

theorem blind_fillAll (s : Secrets) (ids : List String) : Blind (fillAll s ids) := by
  have hportal : Blind (fillPortal s) := by
    unfold fillPortal
    split
    · exact blind_generate.bind fun _ => blind_pure _
    · exact blind_pure _
  refine hportal.bind fun s' => blind_foldlM (fun s id => ?_) ids s'
  exact (blind_fill _ _).bind fun _ => (blind_fill _ _).bind fun _ => blind_pure _

theorem reads_load (path : Path) : Reads (load path) := by
  intro t
  rw [runFrom_eq, exec_load, exec_load]
  exact ⟨t.log, rfl⟩

theorem blind_save (path : Path) (s : Secrets) : Blind (save path s) :=
  (blind_changeTree _).bind fun _ => (blind_changeTree _).bind fun _ =>
    (blind_changeTree _).bind fun _ => (reads_note _).blind

theorem blind_ensure (path : Path) (ids : List String) : Blind (ensure path ids) := by
  rw [ensure_eq]
  refine (reads_load path).blind.bind fun stored => ?_
  split
  · exact (reads_note _).blind.bind fun _ => blind_pure _
  · exact (blind_fillAll _ _).bind fun s => (blind_save path s).bind fun _ => blind_pure s

/-! ## Filling what is missing -/

theorem isComplete_iff : s.isComplete ids ↔ s.portalClientSecret ≠ "" ∧
    ∀ id ∈ ids, hasValue s.clientSecrets id ∧ hasValue s.cookieSecrets id := by
  rw [isComplete, Bool.and_eq_true, Bool.not_eq_true', List.all_eq_true, ← Bool.not_eq_true,
    String.isEmpty_iff]
  simp only [Bool.and_eq_true]

/-- No id has two secrets of a kind. -/
structure Distinct (s : Secrets) : Prop where
  client : (s.clientSecrets.map (·.1)).Nodup
  cookie : (s.cookieSecrets.map (·.1)).Nodup

theorem distinct_of_decode {fs : Decode.Fields} (h : decode fs = .ok s) : s.Distinct := by
  obtain ⟨_, cookie, hparts, hcookie, rfl⟩ := Decoded.seq_eq_ok.1 h
  obtain ⟨_, client, hpart, hclient, rfl⟩ := Decoded.seq_eq_ok.1 hparts
  obtain ⟨portal, -, rfl⟩ := Decoded.fmap_eq_ok.1 hpart
  have hkeys : ∀ {name : Decode.FieldName} {entries : List (String × String)},
      Decode.optional fs name [] (Decode.mapping Decode.text) = .ok entries →
        (entries.map (·.1)).Nodup := by
    intro name entries hentries
    rcases Decode.exists_of_optional hentries with rfl | ⟨d, hd⟩
    · exact List.nodup_nil
    · exact keys_nodup_of_mapping hd
  exact ⟨hkeys hclient, hkeys hcookie⟩

/-- In secrets that are read no id has two of a kind. -/
theorem distinct_of_ofText {text : String} (h : ofText path text = .ok s) : s.Distinct := by
  obtain ⟨d, -, h⟩ := bind_eq_ok.1 h
  cases d with
  | map fields =>
    obtain ⟨fs, -, h⟩ := bind_eq_ok.1 h
    exact distinct_of_decode (Decoded.toExcept_eq_ok.1 h)
  | _ => cases h

theorem distinct_of_stored {tree : Tree} (h : stored path tree = .ok s) : s.Distinct := by
  obtain ⟨found, -, h⟩ := bind_eq_ok.1 h
  cases found with
  | false =>
    cases h
    exact ⟨List.nodup_nil, List.nodup_nil⟩
  | true =>
    obtain ⟨text, -, h⟩ := bind_eq_ok.1 h
    exact distinct_of_ofText h

theorem yields_fill_distinct (h : (entries.map (·.1)).Nodup) :
    Yields (fill entries id) fun entries' => (entries'.map (·.1)).Nodup ∧ hasValue entries' id ∧
      ∀ other, hasValue entries other → hasValue entries' other := by
  unfold fill
  split
  · exact yields_pure ⟨h, ‹_›, fun _ hother => hother⟩
  · refine yields_generate.bind fun value hvalue => yields_pure ?_
    exact ⟨keys_nodup_setEntry h, hasValue_setEntry_self hvalue, fun _ => hasValue_setEntry hvalue⟩

theorem yields_fillPortal_distinct (h : s.Distinct) :
    Yields (fillPortal s) fun s' => s'.Distinct ∧ s'.isComplete [] := by
  unfold fillPortal
  by_cases hempty : s.portalClientSecret.isEmpty
  · rw [if_pos hempty]
    refine yields_generate.bind fun value hvalue => yields_pure ⟨⟨h.client, h.cookie⟩, ?_⟩
    exact isComplete_iff.2 ⟨hvalue.ne_empty, fun _ hid => absurd hid List.not_mem_nil⟩
  · rw [if_neg hempty]
    refine yields_pure ⟨h, isComplete_iff.2 ⟨fun heq => hempty (String.isEmpty_iff.2 heq), ?_⟩⟩
    exact fun _ hid => absurd hid List.not_mem_nil

/-- After one more service was seen to, nothing is missing for those before or for it. -/
theorem yields_fillService_distinct (h : s.Distinct) (hcomplete : s.isComplete ids) :
    Yields (fillService s id) fun s' => s'.Distinct ∧ s'.isComplete (ids ++ [id]) := by
  obtain ⟨hportal, hids⟩ := isComplete_iff.1 hcomplete
  refine (yields_fill_distinct h.client).bind fun client hclient => ?_
  refine (yields_fill_distinct h.cookie).bind fun cookie hcookie => yields_pure ?_
  obtain ⟨hclients, hclientId, hclientOthers⟩ := hclient
  obtain ⟨hcookies, hcookieId, hcookieOthers⟩ := hcookie
  refine ⟨⟨hclients, hcookies⟩, isComplete_iff.2 ⟨hportal, ?_⟩⟩
  refine List.forall_mem_append.2 ⟨fun other hother => ?_, ?_⟩
  · obtain ⟨hvalue, hvalue'⟩ := hids other hother
    exact ⟨hclientOthers other hvalue, hcookieOthers other hvalue'⟩
  · exact List.forall_mem_singleton.2 ⟨hclientId, hcookieId⟩

theorem yields_fillAll_distinct (h : s.Distinct) (ids : List String) :
    Yields (fillAll s ids) fun s' => s'.Distinct ∧ s'.isComplete ids :=
  (yields_fillPortal_distinct h).bind fun _ hs =>
    yields_foldlM (fun done (s' : Secrets) => s'.Distinct ∧ s'.isComplete done)
      (fun _ _ _ _ hs' => yields_fillService_distinct hs'.1 hs'.2) (List.Subset.refl ids) [] hs

/-! ## What `ensure` leaves -/

theorem puts_of_exec_save (h : (save path s).exec t = (.ok (), t')) :
    t.state.tree.Puts path (Yaml.write s.toData) t'.state.tree := by
  obtain ⟨_, t₁, hmake, h⟩ := exec_bind_eq_ok_iff.1 h
  obtain ⟨_, t₂, hwrite, h⟩ := exec_bind_eq_ok_iff.1 h
  obtain ⟨_, t₃, hmode, h⟩ := exec_bind_eq_ok_iff.1 h
  have hchange : ∀ {f : Tree → Except Failure Tree} {t t' : Trail Machine},
      (changeTree f).exec t = (.ok (), t') → f t.state.tree = .ok t'.state.tree := by
    intro f t t' h
    rw [exec_changeTree] at h
    cases hf : f t.state.tree with
    | error e =>
      rw [hf] at h
      cases h
    | ok tree =>
      rw [hf] at h
      cases h
      rfl
  cases h
  exact (Tree.puts_of_write (hchange hmake) (hchange hwrite)).setMode (hchange hmode)

/-- What `ensure` does to a tree when it returns some secrets. -/
structure EnsuredIn (path : Path) (ids : List String) (s : Secrets) (tree tree' : Tree) : Prop where
  distinct : s.Distinct
  complete : s.isComplete ids
  tree : (tree' = tree ∧ stored path tree = .ok s) ∨ tree.Puts path (Yaml.write s.toData) tree'

theorem ensuredIn_of_exec_ensure (h : (ensure path ids).exec t = (.ok s, t')) :
    EnsuredIn path ids s t.state.tree t'.state.tree := by
  rw [ensure_eq, exec_bind, exec_load] at h
  cases hstored : stored path t.state.tree with
  | error e =>
    rw [hstored] at h
    cases h
  | ok s₀ =>
    rw [hstored] at h
    dsimp only at h
    have hdistinct := distinct_of_stored hstored
    by_cases hcomplete : s₀.isComplete ids
    · rw [if_pos hcomplete] at h
      cases h
      exact ⟨hdistinct, hcomplete, .inl ⟨rfl, hstored⟩⟩
    · rw [if_neg hcomplete] at h
      obtain ⟨s₁, t₁, hfill, ⟨hdistinct₁, hcomplete₁⟩, htree⟩ :=
        yields_fillAll_distinct hdistinct ids t
      rw [exec_bind_of_ok hfill] at h
      obtain ⟨_, t₂, hsave, h⟩ := exec_bind_eq_ok_iff.1 h
      cases h
      exact ⟨hdistinct₁, hcomplete₁, .inr (htree ▸ puts_of_exec_save hsave)⟩

/-- Where nothing is missing `ensure` returns what is stored and changes nothing. -/
theorem exec_ensure_of_stored (hstored : stored path t.state.tree = .ok s)
    (hcomplete : s.isComplete ids) :
    ∃ t', (ensure path ids).exec t = (.ok s, t') ∧ t'.state = t.state := by
  have hload : (load path).exec t = (.ok s, t) := by rw [exec_load, hstored]
  rw [ensure_eq, exec_bind_of_ok hload, if_pos hcomplete]
  exact ⟨_, rfl, rfl⟩

theorem isComplete_of_same (h : s'.Same s) (hcomplete : s.isComplete ids) : s'.isComplete ids := by
  obtain ⟨hportal, hids⟩ := isComplete_iff.1 hcomplete
  refine isComplete_iff.2 ⟨h.portal ▸ hportal, fun id hid => ?_⟩
  rw [hasValue, h.client, hasValue, h.cookie]
  exact hids id hid

theorem Distinct.same_sorted (h : s.Distinct) : s.sorted.Same s :=
  ⟨rfl, lookup_eq_of_perm h.client (sorted_client s), lookup_eq_of_perm h.cookie (sorted_cookie s)⟩

/-- Secrets that are not empty were found in a file. -/
theorem exists_holds_of_stored {tree : Tree} (h : stored path tree = .ok s)
    (hcomplete : s.isComplete ids) : ∃ raw, tree.Holds path raw ∧
      ofText path (String.ofList (Text.plainLineEnds raw.toList)) = .ok s := by
  obtain ⟨found, -, h⟩ := bind_eq_ok.1 h
  cases found with
  | false =>
    cases h
    exact absurd rfl (isComplete_iff.1 hcomplete).1
  | true =>
    obtain ⟨text, hread, h⟩ := bind_eq_ok.1 h
    obtain ⟨raw, hholds, rfl⟩ := Tree.exists_holds_of_read hread
    exact ⟨raw, hholds, h⟩

namespace EnsuredIn

variable {tree tree' : Tree} (h : EnsuredIn path ids s tree tree')

include h

/-- No file changes but the one that the path leads to. -/
theorem file?_of_ne {place : Place} (hplace : place ≠ .ofPath path) :
    tree'.file? place = tree.file? place := by
  rcases h.tree with ⟨rfl, -⟩ | hputs
  · rfl
  · exact hputs.file?_of_ne hplace

theorem grown : Tree.Grown tree tree' := by
  rcases h.tree with ⟨rfl, -⟩ | hputs
  · exact .refl
  · exact hputs.grown

/-- Where there was no file, one was written. -/
theorem puts_of_contains (hnone : tree.contains path = .ok false) :
    tree.Puts path (Yaml.write s.toData) tree' := by
  refine h.tree.resolve_left fun ⟨_, hstored⟩ => ?_
  rw [stored, hnone] at hstored
  cases hstored
  exact (isComplete_iff.1 h.complete).1 rfl

/-- The same secrets are found afterwards, if what was written is read as it was written. -/
theorem exists_text (hread : tree'.Holds path (Yaml.write s.toData) →
    Yaml.read (Yaml.write s.toData) = .ok s.toData) :
    ∃ raw s', tree'.Holds path raw ∧
      ofText path (String.ofList (Text.plainLineEnds raw.toList)) = .ok s' ∧ s'.Same s ∧
        s'.isComplete ids := by
  rcases h.tree with ⟨rfl, hstored⟩ | hputs
  · obtain ⟨raw, hholds, htext⟩ := exists_holds_of_stored hstored h.complete
    exact ⟨raw, s, hholds, htext, ⟨rfl, fun _ => rfl, fun _ => rfl⟩, h.complete⟩
  · have hsaved : Readable path s :=
      readable_of_read h.distinct.client h.distinct.cookie (hread hputs.holds)
    exact ⟨_, s.sorted, hputs.holds, hsaved, h.distinct.same_sorted,
      isComplete_of_same h.distinct.same_sorted h.complete⟩

end EnsuredIn

end StackCompiler.Secrets
