import StackCompiler.Descriptor.Load
import StackCompiler.Proofs.Descriptor.Documents
import StackCompiler.Proofs.Descriptor.Generation
import StackCompiler.Proofs.Encoding.Utf8
import StackCompiler.Proofs.Files.Tree
import StackCompiler.Proofs.Json.RoundTrip
import StackCompiler.Proofs.Machine
import StackCompiler.Proofs.Text.Split

/-!
# Descriptors arrive as they were sent

A generated descriptor is loaded from either of its texts, inline or from a file, and whatever
document the schema accepts is loaded without a loss (`Descriptor.load_of_generate_and_check`).
-/

namespace StackCompiler

open Session

/-! ## Line ends -/

namespace Json

theorem Layout.adds_indented : Printer.Adds .indented (· ≠ '\r') where
  comma := List.all_iff_forall_prop.1 rfl
  colon := List.all_iff_forall_prop.1 rfl
  newline := by
    intro level c hc
    rcases List.mem_cons.1 hc with rfl | hc
    · decide
    · rw [List.eq_of_mem_replicate hc]
      decide

theorem Layout.adds_compact : Printer.Adds .compact IsPlainAscii where
  comma := List.all_iff_forall_prop.1 rfl
  colon := List.all_iff_forall_prop.1 rfl
  newline := fun _ _ hc => absurd hc List.not_mem_nil

end Json

namespace Descriptor

open Json (IsPlainAscii Layout Plain Printer.Adds)

/-! ## The texts of descriptors -/

theorem plain_ofStrs {n : Nat} (xs : List String) : Plain (n + 1) (.ofStrs xs) := by
  refine .arr fun v hv => ?_
  obtain ⟨x, -, rfl⟩ := List.mem_map.1 hv
  exact .str x

theorem plain_optionalMember {α : Type} {n : Nat} {name : String} {f : α → Json} {a? : Option α}
    (hf : ∀ a, Plain n (f a)) : ∀ m ∈ optionalMember name (a?.map f), Plain n m.2 := by
  cases a? with
  | none => exact fun m hm => absurd hm List.not_mem_nil
  | some a => exact List.forall_mem_singleton.2 (hf a)

theorem sublist_optionalMember (name : String) (v? : Option Json) :
    ((optionalMember name v?).map (·.1)).Sublist [name] := by
  cases v? with
  | none => exact List.nil_sublist _
  | some v => exact List.Sublist.refl _

theorem Entry.nodup_members (e : Entry) : (e.members.map (·.1)).Nodup := by
  have hsublist : (e.members.map (·.1)).Sublist ["id", "name", "url", "protected", "authType",
      "group", "icon", "description", "requiredRoles"] := by
    simp only [members, List.map_append]
    exact ((((List.Sublist.refl _).append (sublist_optionalMember ..)).append
      (sublist_optionalMember ..)).append (sublist_optionalMember ..)).append
      (sublist_optionalMember ..)
  exact hsublist.nodup (by decide)

theorem Entry.plain_toJson (e : Entry) : Plain 2 e.toJson := by
  refine .obj e.nodup_members ?_
  simp only [List.forall_mem_append]
  refine ⟨⟨⟨⟨?_, plain_optionalMember .str⟩, plain_optionalMember .str⟩,
    plain_optionalMember .str⟩, plain_optionalMember plain_ofStrs⟩
  simp only [List.forall_mem_cons]
  exact ⟨.str _, .str _, .str _, .bool _, .str _, fun m hm => absurd hm List.not_mem_nil⟩

/-- A document has no numbers, and roles are its deepest part. -/
theorem plain_toJson (d : Descriptor) : Plain 4 d.toJson := by
  have hprovider : Plain 3 d.identityProvider.toJson := by
    refine .obj (by simp) ?_
    simp only [List.forall_mem_cons]
    exact ⟨.str _, .str _, .str _, fun m hm => absurd hm List.not_mem_nil⟩
  have hfrontend : Plain 3 (.obj [("publicUrl", .str d.portalUrl)]) :=
    .obj (by simp) (List.forall_mem_singleton.2 (.str _))
  have hservices : Plain 3 (.arr (d.services.map Entry.toJson)) := by
    refine .arr fun v hv => ?_
    obtain ⟨e, -, rfl⟩ := List.mem_map.1 hv
    exact e.plain_toJson
  refine .obj (by simp) ?_
  simp only [List.forall_mem_cons]
  exact ⟨.str _, .str _, .str _, .str _, hfrontend, hprovider, hservices,
    fun m hm => absurd hm List.not_mem_nil⟩

/-- The text on one line. -/
def compactText (d : Descriptor) : String := d.toJson.write .compact

/-- The size of the text on one line, in bytes. -/
def compactSize (d : Descriptor) : Nat := (Utf8.encode d.compactText).length

variable {d : Descriptor} {layout : Layout}

theorem ofText_write (hd : d.Valid) (hlayout : layout.Spaced) :
    ofText (d.toJson.write layout) = .ok d := by
  rw [ofText, Json.read_write hlayout d.plain_toJson (by decide)]
  exact ofJson_of_same (check_toJson_of_valid hd) (Json.Same.refl _)

theorem ne_empty_write (d : Descriptor) (layout : Layout) : d.toJson.write layout ≠ "" := by
  intro h
  have hchars := congrArg String.toList h
  rw [Json.write, String.toList_ofList] at hchars
  cases hchars

theorem forall_mem_write {P : Char → Prop} (d : Descriptor) (hadds : Printer.Adds layout P)
    (hplain : ∀ c, IsPlainAscii c → P c) : ∀ c ∈ (d.toJson.write layout).toList, P c := by
  rw [Json.write, String.toList_ofList]
  exact Json.Printer.forall_mem_value hadds hplain d.plain_toJson 0

theorem ne_return_of_isPlainAscii {c : Char} (h : IsPlainAscii c) : c ≠ '\r' := by
  rintro rfl
  exact absurd h.1 (by decide)

/-- The text for inline delivery is one line of plain characters. -/
theorem isPlainAscii_compactText (d : Descriptor) : ∀ c ∈ d.compactText.toList, IsPlainAscii c :=
  d.forall_mem_write Layout.adds_compact fun _ => id

theorem compactSize_eq (d : Descriptor) : d.compactSize = d.compactText.toList.length := by
  have hascii : ∀ c ∈ d.compactText.toList, c.toNat < 128 := fun c hc =>
    Nat.lt_trans (d.isPlainAscii_compactText c hc).2 (by decide)
  rw [compactSize, Utf8.encode, Utf8.length_encodeChars hascii]

/-! ## Loading -/

variable {text : String} {inline : Option String} {path : Option Path} {t t' : Trail Machine}

theorem exec_sourceText_inline (h : text ≠ "") (path : Option Path) (t : Trail Machine) :
    (sourceText (some text) path).exec t = (.ok text, t) := by
  have hfilter : (some text).filter (!·.isEmpty) = some text := by simp [Option.filter, h]
  unfold sourceText
  rw [hfilter]
  rfl

theorem exec_sourceText_file {p : Path} (hinline : inline.getD "" = "")
    (h : t.state.tree.Holds p text) :
    (sourceText inline (some p)).exec t =
      (.ok (String.ofList (Text.plainLineEnds text.toList)), t) := by
  have hfilter : inline.filter (!·.isEmpty) = none := by
    cases inline with
    | none => rfl
    | some s =>
      rw [Option.getD_some] at hinline
      rw [hinline]
      rfl
  unfold sourceText
  rw [hfilter]
  have hexists : (Machine.exists? p).exec t = (.ok true, t) := by
    rw [Machine.exec_exists?, h.contains]
  rw [exec_bind_of_ok hexists, ← h.read]
  exact Machine.exec_read p t

theorem fst_exec_load (hsource : ((sourceText inline path).exec t).1 = .ok text)
    (htext : ofText text = .ok d) : ((load inline path).exec t).1 = .ok d := by
  have hexec : (sourceText inline path).exec t = (.ok text, ((sourceText inline path).exec t).2) :=
    Prod.ext hsource rfl
  unfold load
  rw [exec_bind_of_ok hexec, htext]
  rfl

/-- The text is loaded as the descriptor when given inline and when read from a file. -/
structure Delivers (text : String) (d : Descriptor) : Prop where
  inline : ∀ path t, ((load (some text) path).exec t).1 = .ok d
  file : ∀ inline p (t : Trail Machine), inline.getD "" = "" → t.state.tree.Holds p text →
    ((load inline (some p)).exec t).1 = .ok d

theorem delivers_write (hd : d.Valid) (hlayout : layout.Spaced)
    (hreturn : ∀ c ∈ (d.toJson.write layout).toList, c ≠ '\r') :
    Delivers (d.toJson.write layout) d := by
  have htext := ofText_write hd hlayout
  constructor
  · intro path t
    refine fst_exec_load ?_ htext
    rw [exec_sourceText_inline (d.ne_empty_write layout)]
  · intro inline p t hinline hfile
    refine fst_exec_load ?_ htext
    rw [exec_sourceText_file hinline hfile, Text.plainLineEnds_of_forall_ne hreturn,
      String.ofList_toList]

theorem inlineText_eq (d : Descriptor) : d.inlineText =
    if 65536 < d.compactSize then .error (.descriptorTooLarge d.compactSize)
    else .ok d.compactText := rfl

theorem inlineText_eq_ok_iff :
    d.inlineText = .ok text ↔ text = d.compactText ∧ d.compactSize ≤ 65536 := by
  rw [inlineText_eq]
  by_cases hsize : 65536 < d.compactSize
  · rw [if_pos hsize]
    simp [hsize]
  · rw [if_neg hsize]
    simp [Nat.not_lt.1 hsize, eq_comm]

theorem inlineText_eq_error_iff {e : Failure} : d.inlineText = .error e ↔
    e = .descriptorTooLarge d.compactSize ∧ 65536 < d.compactSize := by
  rw [inlineText_eq]
  by_cases hsize : 65536 < d.compactSize
  · rw [if_pos hsize]
    simp [hsize, eq_comm]
  · rw [if_neg hsize]
    simp [hsize]

/-- A generated descriptor is loaded from each of its texts, of which the one for inline delivery
is a line of plain characters, and there unless it is too long. A document that the check accepts is
loaded as a descriptor whose document is the same value. -/
theorem load_of_generate_and_check :
    (∀ settings deployment d, generate settings deployment = .ok d →
      Delivers d.text d ∧ (∀ text, d.inlineText = .ok text → Delivers text d) ∧
      (∀ e, d.inlineText = .error e ↔
        e = .descriptorTooLarge d.compactSize ∧ 65536 < d.compactSize) ∧
      ∀ c ∈ d.compactText.toList, IsPlainAscii c) ∧
    ∀ document, check document = .ok () → ∃ d, Json.Same d.toJson document ∧
      ∀ inline path t text, ((sourceText inline path).exec t).1 = .ok text →
        Json.read text = .ok document → ((load inline path).exec t).1 = .ok d := by
  constructor
  · intro settings deployment d h
    obtain ⟨entries, -, -, hvalid⟩ := generate_eq_ok_iff.1 h
    refine ⟨?_, ?_, fun e => inlineText_eq_error_iff, d.isPlainAscii_compactText⟩
    · exact delivers_write hvalid Layout.spaced_indented
        (d.forall_mem_write Layout.adds_indented fun c => ne_return_of_isPlainAscii)
    · intro text htext
      rw [(inlineText_eq_ok_iff.1 htext).1]
      exact delivers_write hvalid Layout.spaced_compact fun c hc =>
        ne_return_of_isPlainAscii (d.isPlainAscii_compactText c hc)
  · intro document hcheck
    obtain ⟨d, hread, hsame⟩ := exists_ofJson_of_check hcheck
    refine ⟨d, hsame, fun inline path t text hsource htext => fst_exec_load hsource ?_⟩
    rw [ofText, htext]
    exact hread

/-- A descriptor with one service. -/
def sampleDescriptor : Descriptor where
  version := "1"
  deploymentId := "demo"
  environment := "local"
  baseDomain := "localhost"
  portalUrl := "http://portal.localhost"
  identityProvider := ⟨"http://keycloak.localhost", "http://keycloak.localhost/realms/main", "main"⟩
  services := [{
    id := "docs", name := "Docs", url := "http://docs.localhost", isProtected := false,
    access := .free }]

theorem valid_sampleDescriptor : sampleDescriptor.Valid := by
  refine ⟨rfl, by decide +kernel, by decide +kernel, by decide, by decide +kernel,
    by decide +kernel, by decide +kernel, by decide, ?_⟩
  refine List.forall_mem_singleton.2 ⟨by decide +kernel, by decide, by decide +kernel, by decide,
    by decide, ?_, ?_, ?_⟩
  · exact fun roles hroles => absurd hroles (Option.some_ne_none roles).symm
  · exact fun _ => ⟨rfl, rfl⟩
  · exact fun h => absurd rfl h

theorem generate_sampleDeployment :
    generate (sampleFile none).settings (sampleDeployment none) = .ok sampleDescriptor := by
  have hsorted : ∃ entries, sortEntries ((sampleDeployment none).services.map
      (entryOf (sampleFile none).settings)) = .ok entries :=
    exists_sortEntries (hasShortNumerals_sampleDeployment (.inl rfl))
  obtain ⟨entries, hsort⟩ := hsorted
  have hentries : entries = sampleDescriptor.services := by
    refine List.perm_singleton.1 ((perm_of_sortByName hsort).trans (.of_eq ?_))
    decide +kernel
  refine generate_eq_ok_iff.2 ⟨entries, hsort, ?_, valid_sampleDescriptor⟩
  rw [hentries]
  decide +kernel

/-- A machine with one file in its working directory. -/
def machineWith (name text : String) : Machine where
  tree := { files := [([name], { text })] }
  choices _ := 0

/-- A descriptor arrives inline and as a file. -/
theorem load_sampleDescriptor :
    generate (sampleFile none).settings (sampleDeployment none) = .ok sampleDescriptor ∧
      ((load (some sampleDescriptor.compactText) none).exec ⟨machineWith "" "", []⟩).1 =
        .ok sampleDescriptor ∧
      ((load none (some ⟨"", ["ui.json"]⟩)).exec
        ⟨machineWith "ui.json" sampleDescriptor.text, []⟩).1 = .ok sampleDescriptor ∧
      ∃ d, Json.Same d.toJson sampleDescriptor.toJson ∧
        ((load (some sampleDescriptor.text) none).exec ⟨machineWith "" "", []⟩).1 = .ok d := by
  obtain ⟨hgenerated, haccepted⟩ := load_of_generate_and_check
  obtain ⟨hindented, hcompact, -, -⟩ := hgenerated _ _ _ generate_sampleDeployment
  obtain ⟨d, hsame, hload⟩ := haccepted _ (check_toJson_of_valid valid_sampleDescriptor)
  have hsize : sampleDescriptor.compactSize ≤ 65536 := by
    rw [compactSize_eq, compactText, Json.write, String.toList_ofList]
    decide +kernel
  refine ⟨generate_sampleDeployment, ?_, ?_, d, hsame, ?_⟩
  · exact (hcompact _ (inlineText_eq_ok_iff.2 ⟨rfl, hsize⟩)).inline _ _
  · exact hindented.file none _ _ rfl ⟨["ui.json"], _, rfl, by decide, rfl, rfl⟩
  · refine hload _ _ _ sampleDescriptor.text ?_ ?_
    · exact congrArg Prod.fst (exec_sourceText_inline (sampleDescriptor.ne_empty_write _) _ _)
    · exact Json.read_write Layout.spaced_indented sampleDescriptor.plain_toJson (by decide)

end Descriptor
end StackCompiler
