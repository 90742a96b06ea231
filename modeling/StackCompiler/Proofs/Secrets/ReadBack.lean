import StackCompiler.Proofs.Data.Reading
import StackCompiler.Proofs.Secrets.Loading
import StackCompiler.Proofs.Secrets.Values
import StackCompiler.Proofs.Text.Pattern
import StackCompiler.Proofs.Yaml.LongKeys

/-!
# Stored secrets are read as they were written

Secrets are written as a sheet of two groups and a text (`Secrets.sheet`). They are read as they
were written (`Readable`) if no id has two secrets of a kind or is given up when it is read as a
key; no slug is. With an id that is given up nothing can be read, so that whatever can be read is
what was written (`eq_sorted_of_ofText`).
-/

namespace StackCompiler

/-! ## Reading mappings -/

/-- A mapping of texts is read as it is. -/
theorem mapping_record {entries : List (String × String)} (h : (entries.map (·.1)).Nodup) :
    Decode.mapping Decode.text (.record (entries.map fun e => (e.1, .str e.2))) = .ok entries := by
  have hdistinct : entries.Pairwise fun a b => (a.1 == b.1) = false :=
    (List.pairwise_map.1 h).imp fun hne => beq_false_of_ne hne
  have hentries : List.Forall₂ (fun kv e => Decoded.both (Decode.keyText kv.1)
      ((Decode.text kv.2).under (Decode.keyStep kv.1)) = .ok e)
        (entries.map fun e => (.str e.1, .str e.2)) entries :=
    List.forall₂_map_left_iff.2 (List.forall₂_same.2 fun e _ => rfl)
  rw [Yaml.record_map]
  change (Decoded.all _).map dedupEntries = _
  rw [Decoded.all_of_forall₂ hentries, Decoded.map, dedupEntries_eq_self hdistinct]

namespace Secrets

variable {path : Path} {s s' : Secrets} {ids : List String} {id : String}

/-! ## The sheet of secrets -/

/-- The secrets with every mapping in the order of its keys, as they are written. -/
def sorted (s : Secrets) : Secrets :=
  { s with
    clientSecrets := s.clientSecrets.mergeSort fun a b => (compare a.1 b.1).isLE
    cookieSecrets := s.cookieSecrets.mergeSort fun a b => (compare a.1 b.1).isLE }
theorem sorted_client (s : Secrets) : s.sorted.clientSecrets.Perm s.clientSecrets :=
  List.mergeSort_perm ..

theorem sorted_cookie (s : Secrets) : s.sorted.cookieSecrets.Perm s.cookieSecrets :=
  List.mergeSort_perm ..

theorem Sound.sorted (h : s.Sound ids) : s.sorted.Sound ids :=
  ⟨h.portal, h.client.perm (sorted_client s), h.cookie.perm (sorted_cookie s)⟩
/-- The secrets as they are written, when their mappings are in order. -/
def sheet (s : Secrets) : Yaml.Sheet :=
  [("client_secrets", .group s.clientSecrets), ("cookie_secrets", .group s.cookieSecrets),
    ("portal_client_secret", .text s.portalClientSecret)]

theorem toData_eq (s : Secrets) : s.toData = s.sorted.sheet.data := rfl

theorem sheet_ne_nil (s : Secrets) : s.sheet ≠ [] := List.cons_ne_nil _ _

theorem isSimpleKey_of_mem_sheet : ∀ e ∈ s.sheet, Yaml.isSimpleKey e.1.toList := by
  simp only [sheet, List.forall_mem_cons]
  exact ⟨by decide, by decide, by decide, fun _ h => absurd h List.not_mem_nil⟩

theorem distinct_sheet (hclient : (s.clientSecrets.map (·.1)).Nodup)
    (hcookie : (s.cookieSecrets.map (·.1)).Nodup) : s.sheet.Distinct := by
  have hnames : ["client_secrets", "cookie_secrets", "portal_client_secret"].Nodup := by decide
  refine ⟨hnames, ?_⟩
  simp only [sheet, List.forall_mem_cons]
  exact ⟨hclient, hcookie, List.nodup_nil, fun _ h => absurd h List.not_mem_nil⟩

theorem keyFits_of_mem_sheet : ∀ e ∈ s.sheet, Yaml.KeyFits e.1 := by
  simp only [sheet, List.forall_mem_cons]
  exact ⟨Yaml.keyFits_of_plainAscii (List.all_eq_true.1 rfl),
    Yaml.keyFits_of_plainAscii (List.all_eq_true.1 rfl),
    Yaml.keyFits_of_plainAscii (List.all_eq_true.1 rfl), fun _ h => absurd h List.not_mem_nil⟩

theorem fits_sheet (hclient : ∀ e ∈ s.clientSecrets, Yaml.KeyFits e.1)
    (hcookie : ∀ e ∈ s.cookieSecrets, Yaml.KeyFits e.1) : s.sheet.Fits := by
  refine fun e he => ⟨keyFits_of_mem_sheet e he, ?_⟩
  revert e
  simp only [sheet, List.forall_mem_cons]
  exact ⟨List.forall_mem_map.2 hclient, List.forall_mem_map.2 hcookie,
    fun _ h => absurd h List.not_mem_nil, fun _ h => absurd h List.not_mem_nil⟩

/-- The fields of a sheet's data. -/
def fields (s : Secrets) : Decode.Fields :=
  [(.str "client_secrets", .record (s.clientSecrets.map fun e => (e.1, .str e.2))),
    (.str "cookie_secrets", .record (s.cookieSecrets.map fun e => (e.1, .str e.2))),
    (.str "portal_client_secret", .str s.portalClientSecret)]

theorem data_sheet (s : Secrets) : s.sheet.data = .map s.fields := rfl

theorem decode_fields (hclient : (s.clientSecrets.map (·.1)).Nodup)
    (hcookie : (s.cookieSecrets.map (·.1)).Nodup) : decode s.fields = .ok s := by
  have hportal : Decode.optional s.fields (.plain "portal_client_secret") "" Decode.text =
      .ok s.portalClientSecret := Decode.optional_of_find? rfl rfl
  have hclients : Decode.optional s.fields (.plain "client_secrets") []
      (Decode.mapping Decode.text) = .ok s.clientSecrets :=
    Decode.optional_of_find? rfl (mapping_record hclient)
  have hcookies : Decode.optional s.fields (.plain "cookie_secrets") []
      (Decode.mapping Decode.text) = .ok s.cookieSecrets :=
    Decode.optional_of_find? rfl (mapping_record hcookie)
  exact Decoded.seq_eq_ok.2 ⟨_, _, Decoded.seq_eq_ok.2 ⟨_, _, Decoded.fmap_eq_ok.2
    ⟨_, hportal, rfl⟩, hclients, rfl⟩, hcookies, rfl⟩

theorem ofDocument_data (hclient : (s.clientSecrets.map (·.1)).Nodup)
    (hcookie : (s.cookieSecrets.map (·.1)).Nodup) : ofDocument s.sheet.data = .ok s := by
  have hnamed : StackFile.named s.fields = .ok s.fields := rfl
  rw [data_sheet]
  change (StackFile.named s.fields >>= fun fields => (decode fields).toExcept .rejected) = _
  rw [hnamed]
  exact Decoded.toExcept_eq_ok.2 (decode_fields hclient hcookie)

/-! ## Reading -/

theorem savedText_eq (s : Secrets) : s.savedText = Yaml.write s.sorted.sheet.data := by
  rw [savedText, toData_eq]
  exact Yaml.plainLineEnds_write (sheet_ne_nil _) isSimpleKey_of_mem_sheet

/-- Secrets that are read from the text that is written of them. -/
def Readable (path : Path) (s : Secrets) : Prop := ofText path s.savedText = .ok s.sorted

theorem nodup_sorted (hclient : (s.clientSecrets.map (·.1)).Nodup)
    (hcookie : (s.cookieSecrets.map (·.1)).Nodup) :
    (s.sorted.clientSecrets.map (·.1)).Nodup ∧ (s.sorted.cookieSecrets.map (·.1)).Nodup :=
  ⟨((sorted_client s).map _).nodup_iff.2 hclient, ((sorted_cookie s).map _).nodup_iff.2 hcookie⟩

/-- It is enough that the data of the secrets is read as it was written. -/
theorem readable_of_read (hclient : (s.clientSecrets.map (·.1)).Nodup)
    (hcookie : (s.cookieSecrets.map (·.1)).Nodup)
    (hread : Yaml.read (Yaml.write s.toData) = .ok s.toData) : Readable path s := by
  obtain ⟨hclient', hcookie'⟩ := nodup_sorted hclient hcookie
  rw [toData_eq] at hread
  rw [Readable, savedText_eq, ofText, documentOf, hread]
  exact ofDocument_data hclient' hcookie'

theorem read_toData_of_fits (hclient : (s.clientSecrets.map (·.1)).Nodup)
    (hcookie : (s.cookieSecrets.map (·.1)).Nodup) (hfits : s.sorted.sheet.Fits) :
    Yaml.read (Yaml.write s.toData) = .ok s.toData := by
  obtain ⟨hclient', hcookie'⟩ := nodup_sorted hclient hcookie
  rw [toData_eq]
  exact Yaml.read_write (sheet_ne_nil _) isSimpleKey_of_mem_sheet hfits
    (distinct_sheet hclient' hcookie')

theorem readable_of_fits (hclient : (s.clientSecrets.map (·.1)).Nodup)
    (hcookie : (s.cookieSecrets.map (·.1)).Nodup) (hfits : s.sorted.sheet.Fits) :
    Readable path s :=
  readable_of_read hclient hcookie (read_toData_of_fits hclient hcookie hfits)

/-- The data of secrets that were generated is read as it was written. -/
theorem Sound.read_toData (h : s.Sound ids) (hids : ∀ id ∈ ids, Yaml.KeyFits id) :
    Yaml.read (Yaml.write s.toData) = .ok s.toData := by
  have hsorted := h.sorted
  refine read_toData_of_fits h.client.keys_nodup h.cookie.keys_nodup (fits_sheet ?_ ?_)
  · exact fun e he => hids _ (hsorted.client.ids e he)
  · exact fun e he => hids _ (hsorted.cookie.ids e he)

/-- With an id that is given up nothing can be read. -/
theorem exists_ofText_error (path : Path) (hfits : ¬s.sorted.sheet.Fits) :
    ∃ f, ofText path s.savedText = .error f := by
  have hread := Yaml.read_write_of_not_fits isSimpleKey_of_mem_sheet keyFits_of_mem_sheet hfits
  rw [savedText_eq, ofText, documentOf, hread]
  exact ⟨_, rfl⟩

/-- Whatever is read of secrets that were generated is what was written. -/
theorem eq_sorted_of_ofText (h : s.Sound ids) (hread : ofText path s.savedText = .ok s') :
    s' = s.sorted := by
  by_cases hfits : s.sorted.sheet.Fits
  · have hreadable : Readable path s :=
      readable_of_fits h.client.keys_nodup h.cookie.keys_nodup hfits
    rw [hreadable] at hread
    exact (Except.ok.inj hread).symm
  · obtain ⟨f, hf⟩ := exists_ofText_error path hfits
    rw [hf] at hread
    cases hread

/-! ## Slugs -/

/-- No slug is given up as a key: it is printable, or else it stands on a line of its own. -/
theorem keyFits_of_isSlug (h : Text.isSlug id) : Yaml.KeyFits id := by
  by_cases hbreak : '\n' ∈ id.toList
  · intro hsimple
    simp only [Yaml.isSimpleKey, Bool.and_eq_true, Bool.not_eq_true'] at hsimple
    exact absurd (List.any_eq_false.1 hsimple.1.2 _ hbreak) (by decide)
  · refine Yaml.keyFits_of_plainAscii fun c hc => ?_
    rw [← Text.dropFinalNewline_of_not_mem hbreak] at hc
    have hn := Text.toNat_of_isSlugChar (Text.isSlugChar_of_isSlug h hc)
    simp only [Yaml.isPlainAscii, Bool.and_eq_true, decide_eq_true_eq]
    omega

end Secrets
end StackCompiler
