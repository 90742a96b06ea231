import StackCompiler.Proofs.Text.Split
import StackCompiler.Proofs.Yaml.Building
import StackCompiler.Yaml.Reader

/-!
# Sheets are read as they were written

The document of a sheet shows the data of the sheet (`shows_document`), and a written text has
nothing in it that a reader would refuse or change. So a sheet whose keys are distinct and fit on
their lines is read as it was written (`read_write`).
-/

namespace StackCompiler.Yaml

variable {nodes : Array Node} {cs w t : List Char} {c : Char} {width n : Nat} {style : Style}
  {sheet : Sheet}

/-! ## What documents of sheets show -/

/-- A sheet with distinct keys, and distinct keys in its groups. -/
def Sheet.Distinct (sheet : Sheet) : Prop :=
  (sheet.map (·.1)).Nodup ∧ ∀ e ∈ sheet, e.2.keys.Nodup

/-- A key and the node that shows the data of its value. -/
def ShowsEntry (nodes : Array Node) (n : Nat) (kv : NodeId × NodeId) (e : String × Data) : Prop :=
  nodes[kv.1]? = some (textNode e.1) ∧ Shows nodes n kv.2 e.2

theorem getElem?_append_length {α : Type} (xs ys : List α) (x : α) :
    (xs ++ x :: ys).toArray[xs.length]? = some x := by simp

theorem shows_entries : ∀ {es : List (String × String)} {before after : List Node},
    nodes = (before ++ (es.flatMap entryNodes ++ after)).toArray →
      List.Forall₂ (ShowsEntry nodes n) (entryIds before.length es)
        (es.map fun e => (e.1, .str e.2))
  | [], _, _, _ => .nil
  | e :: es, before, after, h => by
    have hkey : nodes[before.length]? = some (textNode e.1) := by
      rw [h]
      exact getElem?_append_length _ _ _
    have hsecond : nodes = (before ++ [textNode e.1] ++
        textNode e.2 :: (es.flatMap entryNodes ++ after)).toArray := by
      rw [h]
      simp [entryNodes]
    have hvalue : nodes[(before ++ [textNode e.1]).length]? = some (textNode e.2) := by
      conv_lhs => rw [hsecond]
      exact getElem?_append_length _ _ _
    have hrest := @shows_entries es (before ++ [textNode e.1] ++ [textNode e.2]) after
      (by rw [hsecond]; simp)
    rw [List.length_append, List.length_append] at hrest
    rw [List.length_append] at hvalue
    exact .cons ⟨hkey, shows_text hvalue⟩ hrest

theorem shows_part {part : Part} {before after : List Node} (hkeys : part.keys.Nodup)
    (h : nodes = (before ++ (part.nodes before.length ++ after)).toArray) :
    Shows nodes 1 before.length part.data := by
  cases part with
  | text s =>
    refine shows_text ?_
    rw [h]
    exact getElem?_append_length _ _ _
  | group es =>
    have hself : nodes[before.length]? = some ⟨.map, .map (entryIds (before.length + 1) es)⟩ := by
      rw [h]
      exact getElem?_append_length _ _ _
    have hentries := @shows_entries nodes 0 es
      (before ++ [⟨.map, .map (entryIds (before.length + 1) es)⟩]) after
      (by rw [h]; simp [Part.nodes])
    rw [List.length_append] at hentries
    refine .inr (.record hself ?_ hentries)
    rw [List.map_map]
    exact hkeys

theorem shows_parts : ∀ {sheet : Sheet} {before after : List Node},
    (∀ e ∈ sheet, e.2.keys.Nodup) →
      nodes = (before ++ (partNodes before.length sheet ++ after)).toArray →
        List.Forall₂ (ShowsEntry nodes 1) (partIds before.length sheet)
          (sheet.map fun e => (e.1, e.2.data))
  | [], _, _, _, _ => .nil
  | e :: es, before, after, hkeys, h => by
    obtain ⟨hkey, hkeys⟩ := List.forall_mem_cons.1 hkeys
    have hself : nodes[before.length]? = some (textNode e.1) := by
      rw [h]
      exact getElem?_append_length _ _ _
    have hpart := @shows_part nodes e.2 (before ++ [textNode e.1]) _ hkey
      (by rw [h, List.length_append]; simp [partNodes]; rfl)
    have hrest := @shows_parts es
      (before ++ [textNode e.1] ++ e.2.nodes (before.length + 1)) after hkeys
      (by rw [h]; simp [partNodes, Nat.add_assoc, Nat.add_comm 1])
    simp only [List.length_append, List.length_singleton] at hpart hrest
    exact .cons ⟨hself, hpart⟩ hrest

theorem shows_document (h : sheet.Distinct) : Shows sheet.document.nodes 2 0 sheet.data := by
  have hparts := @shows_parts sheet.document.nodes sheet [⟨.map, .map (partIds 1 sheet)⟩] [] h.2
    (by simp [Sheet.document])
  refine .inr (.record rfl ?_ hparts)
  rw [List.map_map]
  exact h.1

/-! ## Written characters -/

theorem Folded.chars (h : Folded width cs w) (hcs : ∀ c ∈ cs, isWrittenChar c) :
    ∀ c ∈ w, isWrittenChar c := by
  induction h with
  | nil => exact hcs
  | char _ _ ih =>
    obtain ⟨hc, hcs⟩ := List.forall_mem_cons.1 hcs
    exact List.forall_mem_cons.2 ⟨hc, ih hcs⟩
  | gap g _ _ ih =>
    refine List.forall_mem_append.2 ⟨fun c hc => ?_, ih (List.forall_mem_append.1 hcs).2⟩
    cases g with
    | blanks n => exact List.eq_of_mem_replicate hc ▸ by decide
    | lines n =>
      rcases List.mem_append.1 hc with hc | hc
      · exact List.eq_of_mem_replicate hc ▸ by decide
      · exact List.eq_of_mem_replicate hc ▸ by decide

theorem Written.chars (h : Written width cs style w) (hwidth : 0 < width) :
    ∀ c ∈ w, isWrittenChar c := by
  cases h with
  | plain hplain hfolded =>
    exact hfolded.chars fun c hc => isWrittenChar_of_isPlainAscii (hplain.chars c hc)
  | @quoted w hchars hfolded =>
    have hclosed := @Folded.closes _ _ [] _ hfolded hwidth hchars (by decide)
    exact List.forall_mem_cons.2 ⟨by decide, List.forall_mem_append.2
      ⟨hclosed.chars, List.forall_mem_singleton.2 (by decide)⟩⟩
  | @escaped w hescaped =>
    have hclosed := @Escaped.closes _ _ [] _ hescaped hwidth
    exact List.forall_mem_cons.2 ⟨by decide, List.forall_mem_append.2
      ⟨hclosed.chars, List.forall_mem_singleton.2 (by decide)⟩⟩

theorem isWrittenChar_blanks (n : Nat) : ∀ c ∈ List.replicate n ' ', isWrittenChar c :=
  fun _ hc => List.eq_of_mem_replicate hc ▸ by decide

theorem KeyWritten.chars (h : KeyWritten width cs t) : ∀ c ∈ t, isWrittenChar c := by
  cases h with
  | simple hsimple =>
    exact List.forall_mem_append.2 ⟨fun c hc => isWrittenChar_of_isPlainAscii
      (isPlainAscii_keyForm hsimple c hc), List.forall_mem_singleton.2 (by decide)⟩
  | complex _ hk =>
    simp only [List.forall_mem_cons, List.forall_mem_append]
    exact ⟨by decide, by decide, hk.chars (Nat.succ_pos _), by decide, isWrittenChar_blanks _,
      by decide, fun _ h => absurd h List.not_mem_nil⟩

theorem ValueWritten.chars {value : String} (h : ValueWritten width value t) :
    ∀ c ∈ t, isWrittenChar c := by
  obtain ⟨w, hw, rfl⟩ := h
  simp only [List.forall_mem_cons, List.forall_mem_append]
  exact ⟨by decide, hw.chars (Nat.succ_pos _), by decide, fun _ h => absurd h List.not_mem_nil⟩

theorem EntryWritten.chars {e : String × String} (h : EntryWritten width e t) :
    ∀ c ∈ t, isWrittenChar c := by
  obtain ⟨k, v, hk, hv, rfl⟩ := h
  simp only [List.forall_mem_append]
  exact ⟨isWrittenChar_blanks _, hk.chars, hv.chars⟩

theorem forall_mem_flatten {α : Type} {R : α → List Char → Prop} {p : Char → Prop} {xs : List α}
    {texts : List (List Char)} (hR : ∀ x t, R x t → ∀ c ∈ t, p c) (h : List.Forall₂ R xs texts) :
    ∀ c ∈ texts.flatten, p c := by
  induction h with
  | nil => exact fun _ hc => absurd hc List.not_mem_nil
  | cons hx _ ih => exact List.forall_mem_append.2 ⟨hR _ _ hx, ih⟩

theorem Part.Written.chars {part : Part} (h : part.Written t) : ∀ c ∈ t, isWrittenChar c := by
  cases h with
  | text hvalue => exact hvalue.chars
  | empty => exact List.all_eq_true.1 rfl
  | group hentries =>
    exact List.forall_mem_cons.2 ⟨by decide, forall_mem_flatten (fun _ _ h => h.chars) hentries⟩

theorem Sheet.Written.chars (h : sheet.Written t) (hsimple : ∀ e ∈ sheet, isSimpleKey e.1.toList) :
    ∀ c ∈ t, isWrittenChar c := by
  obtain ⟨texts, htexts, rfl⟩ := h
  refine forall_mem_flatten ?_ ((List.forall₂_and_left _ _).2 ⟨hsimple, htexts⟩)
  rintro e t ⟨he, p, hp, rfl⟩
  exact List.forall_mem_append.2 ⟨fun c hc => isWrittenChar_of_isPlainAscii
    (isPlainAscii_keyForm he c hc), List.forall_mem_cons.2 ⟨by decide, hp.chars⟩⟩

/-! ## Reading -/

theorem isReadable_of_isWrittenChar (h : isWrittenChar c) : isReadable c := by
  rw [isWrittenChar, Bool.or_eq_true, isPlainAscii] at h
  rcases h with h | h
  · simp [isReadable, h]
  · simp [isReadable, beq_iff_eq.1 h]

theorem plainLineEnds_of_written (h : ∀ c ∈ t, isWrittenChar c) : Text.plainLineEnds t = t :=
  Text.plainLineEnds_of_forall_ne fun c hc heq => absurd (h c hc) (by subst heq; decide)

/-- The data that characters say by their tokens. -/
def readTokens (cs : List Char) : Except Fault Data := do
  match ← Document.ofTokens? (tokens cs) with
  | none => return .null
  | some d => d.data

/-- A written text is read by its tokens. -/
theorem read_eq (h : ∀ c ∈ t, isWrittenChar c) : read (String.ofList t) = readTokens t := by
  have hreadable : t.findIdx? (!isReadable ·) = none :=
    List.findIdx?_eq_none_iff.2 fun c hc => by
      rw [isReadable_of_isWrittenChar (h c hc)]
      rfl
  rw [read, String.toList_ofList, plainLineEnds_of_written h, hreadable]
  rfl

/-- What is written of a sheet is found again in a file. -/
theorem plainLineEnds_write (hne : sheet ≠ []) (hsimple : ∀ e ∈ sheet, isSimpleKey e.1.toList) :
    String.ofList (Text.plainLineEnds (write sheet.data).toList) = write sheet.data := by
  have hwritten := exists_written_write hsimple hne
  rw [plainLineEnds_of_written (hwritten.chars hsimple), String.ofList_toList]

/-- A sheet with distinct keys, of which none is given up, is read as it was written. -/
theorem read_write (hne : sheet ≠ []) (hsimple : ∀ e ∈ sheet, isSimpleKey e.1.toList)
    (hfits : sheet.Fits) (hdistinct : sheet.Distinct) :
    read (write sheet.data) = .ok sheet.data := by
  have hwritten := exists_written_write hsimple hne
  have hread := read_eq (hwritten.chars hsimple)
  rw [String.ofList_toList, readTokens, tokens_of_written hwritten hne hsimple hfits,
    ofTokens?_tokens] at hread
  rw [hread]
  refine data_of_shows (shows_document hdistinct) ?_ (by decide)
  obtain ⟨e, es, rfl⟩ := List.exists_cons_of_ne_nil hne
  exact Nat.succ_le_succ (Nat.succ_le_succ (Nat.zero_le _))

end StackCompiler.Yaml
