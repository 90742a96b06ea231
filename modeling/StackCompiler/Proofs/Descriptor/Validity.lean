import StackCompiler.Descriptor.Generate
import StackCompiler.Proofs.Schema

/-!
# Valid descriptors

`Descriptor.Valid` says in its own terms when a descriptor satisfies the schema of its documents
(`Descriptor.schema_problems_toJson_eq_nil_iff`).
-/

namespace StackCompiler

namespace Descriptor

open Schema

/-! ## Members of documents -/

theorem lookup_optionalMember {name k : String} {v? : Option Json} :
    (optionalMember name v?).lookup k = if k = name then v? else none := by
  cases v? with
  | none => simp [optionalMember]
  | some v =>
    by_cases h : k = name
    · simp [optionalMember, h]
    · simp [optionalMember, List.lookup_cons, beq_false_of_ne h, h]

theorem key_mem_optionalMember {name k : String} {v? : Option Json}
    (h : k ∈ (optionalMember name v?).map (·.1)) : k = name := by
  cases v? <;> simp_all [optionalMember]

/-- The members of the document of an entry. -/
def Entry.members (e : Entry) : List (String × Json) :=
  [("id", .str e.id),
   ("name", .str e.name),
   ("url", .str e.url),
   ("protected", .bool e.isProtected),
   ("authType", e.access.toJson)] ++
  optionalMember "group" (e.group.map .str) ++
  optionalMember "icon" (e.icon.map .str) ++
  optionalMember "description" (e.description.map .str) ++
  optionalMember "requiredRoles" (e.roles.map .ofStrs)

theorem Entry.toJson_eq (e : Entry) : e.toJson = .obj e.members := rfl

theorem Entry.lookup_members (e : Entry) (k : String) :
    e.members.lookup k =
      (List.lookup k [("id", .str e.id), ("name", .str e.name), ("url", .str e.url),
        ("protected", .bool e.isProtected), ("authType", e.access.toJson)]).or
      ((if k = "group" then e.group.map .str else none).or
      ((if k = "icon" then e.icon.map .str else none).or
      ((if k = "description" then e.description.map .str else none).or
      (if k = "requiredRoles" then e.roles.map .ofStrs else none)))) := by
  simp only [members, List.lookup_append, lookup_optionalMember, Option.or_assoc]

theorem Entry.key_mem_members (e : Entry) {k : String} (h : k ∈ e.members.map (·.1)) :
    k ∈ ["id", "name", "url", "protected", "authType", "group", "icon", "description",
      "requiredRoles"] := by
  simp only [members, List.map_append, List.mem_append] at h
  rcases h with (((h | h) | h) | h) | h
  · simp only [List.map_cons, List.map_nil, List.mem_cons, List.not_mem_nil, or_false] at h
    simp only [List.mem_cons]
    tauto
  all_goals simp [key_mem_optionalMember h]

/-! ## Entries -/

/-- What the schema asks of an entry. -/
structure Entry.Valid (e : Entry) : Prop where
  id_slug : Text.isSlug e.id
  name_filled : e.name ≠ ""
  url_valid : Text.isHttpUrl e.url
  group_filled : e.group ≠ some ""
  icon_filled : e.icon ≠ some ""
  roles_slug : ∀ roles, e.roles = some roles → roles ≠ [] ∧ ∀ r ∈ roles, Text.isSlug r
  free : e.access = .free → e.isProtected = false ∧ e.roles = none
  guarded : e.access ≠ .free → e.isProtected = true ∧ e.roles ≠ none

theorem freeRule_problems_eq_nil_iff (e : Entry) :
    freeRule.problems e.toJson = [] ↔
      (e.access = .free → e.isProtected = false ∧ e.roles = none) := by
  rw [Entry.toJson_eq, freeRule_problems_obj_iff]
  cases haccess : e.access <;>
    simp [Entry.lookup_members, List.lookup_cons, haccess, Access.toJson, Access.word]

theorem guardedRule_problems_eq_nil_iff (e : Entry) :
    guardedRule.problems e.toJson = [] ↔
      (e.access ≠ .free → e.isProtected = true ∧ e.roles ≠ none) := by
  rw [Entry.toJson_eq, guardedRule_problems_obj_iff]
  cases haccess : e.access <;>
    simp [Entry.lookup_members, List.lookup_cons, haccess, Access.toJson, Access.word,
      Option.isSome_iff_ne_none]

theorem oneOf_words_problems_toJson (a : Access) :
    (oneOf (Access.words.map (·.1))).problems a.toJson = [] := by
  rw [oneOf_problems_eq_nil_iff]
  cases a <;> simp [Access.words, Access.toJson, Access.word]

/-- Where the text that may be there is accepted, it is not empty. -/
theorem filledText_problems_option_iff {t : Option String} :
    (∀ w, t.map Json.str = some w → filledText.problems w = []) ↔ t ≠ some "" := by
  cases t <;> simp [filledText_problems_eq_nil_iff]

theorem someRoles_problems_option_iff {t : Option (List String)} :
    (∀ w, t.map Json.ofStrs = some w → someRoles.problems w = []) ↔
      ∀ roles, t = some roles → roles ≠ [] ∧ ∀ r ∈ roles, Text.isSlug r := by
  cases t <;> simp [someRoles_problems_ofStrs_eq_nil_iff]

theorem entrySchema_problems_toJson_eq_nil_iff (e : Entry) :
    entrySchema.problems e.toJson = [] ↔ e.Valid := by
  have hrequired : ∀ k ∈ ["id", "name", "url", "protected", "authType"],
      (e.members.lookup k).isSome := by
    simp [Entry.lookup_members, List.lookup_cons, -List.lookup_isSome_iff]
  rw [entrySchema, all_problems_eq_nil_iff]
  simp only [List.forall_mem_cons, freeRule_problems_eq_nil_iff, guardedRule_problems_eq_nil_iff]
  rw [Entry.toJson_eq, closedObject_problems_obj_eq_nil_iff
    (fun k hk => by simpa using e.key_mem_members hk) hrequired]
  simp only [List.forall_mem_cons, List.not_mem_nil, false_implies, implies_true, and_true]
  simp only [Entry.lookup_members, List.lookup_cons, List.lookup_nil, String.reduceBEq,
    String.reduceEq, if_true, if_false, Option.none_or, Option.or_none, Option.some.injEq,
    forall_eq', filledText_problems_option_iff, someRoles_problems_option_iff]
  simp only [slugText_problems_eq_nil_iff, filledText_problems_eq_nil_iff,
    urlText_problems_eq_nil_iff, oneOf_words_problems_toJson, Json.str.injEq, exists_eq_left']
  constructor
  · rintro ⟨⟨hid, hname, hurl, -, -, hgroup, hicon, -, hroles⟩, hfree, hguarded⟩
    exact ⟨hid, hname, hurl, hgroup, hicon, hroles, hfree, hguarded⟩
  · intro h
    have hprotected : (kind .boolean).problems (.bool e.isProtected) = [] :=
      kind_problems_eq_nil_iff.2 rfl
    have hdescription : ∀ w, e.description.map Json.str = some w →
        (kind .string).problems w = [] := by
      cases e.description <;> simp [kind_problems_eq_nil_iff, ValueKind.holds]
    exact ⟨⟨h.id_slug, h.name_filled, h.url_valid, hprotected, trivial, h.group_filled,
      h.icon_filled, hdescription, h.roles_slug⟩, h.free, h.guarded⟩

/-! ## Descriptors -/

/-- What the schema asks of a descriptor. -/
structure Valid (d : Descriptor) : Prop where
  version_eq : d.version = "1"
  deploymentId_slug : Text.isSlug d.deploymentId
  environment_slug : Text.isSlug d.environment
  baseDomain_filled : d.baseDomain ≠ ""
  portalUrl_valid : Text.isHttpUrl d.portalUrl
  providerUrl_valid : Text.isHttpUrl d.identityProvider.publicUrl
  issuerUrl_valid : Text.isHttpUrl d.identityProvider.issuerUrl
  realm_filled : d.identityProvider.realm ≠ ""
  services : ∀ e ∈ d.services, e.Valid

theorem frontend_problems_eq_nil_iff {url : String} :
    (closedObject ["publicUrl"] [("publicUrl", urlText)]).problems
      (.obj [("publicUrl", .str url)]) = [] ↔ Text.isHttpUrl url := by
  rw [closedObject_problems_obj_eq_nil_iff (by simp) (by simp [List.lookup_cons])]
  simp [List.lookup_cons, urlText_problems_eq_nil_iff]

theorem identityProvider_problems_eq_nil_iff {p : IdentityProvider} :
    (closedObject ["publicUrl", "issuerUrl", "realm"] [("publicUrl", urlText),
      ("issuerUrl", urlText), ("realm", filledText)]).problems p.toJson = [] ↔
      Text.isHttpUrl p.publicUrl ∧ Text.isHttpUrl p.issuerUrl ∧ p.realm ≠ "" := by
  rw [IdentityProvider.toJson, closedObject_problems_obj_eq_nil_iff (by simp)
    (by simp [List.lookup_cons, -List.lookup_isSome_iff])]
  simp [or_imp, forall_and, List.lookup_cons, urlText_problems_eq_nil_iff,
    filledText_problems_eq_nil_iff]

theorem entries_problems_eq_nil_iff {es : List Entry} :
    (all [kind .array, items entrySchema]).problems (.arr (es.map Entry.toJson)) = [] ↔
      ∀ e ∈ es, e.Valid := by
  rw [all_problems_eq_nil_iff]
  simp [kind_problems_eq_nil_iff, items_problems_eq_nil_iff, ValueKind.holds,
    entrySchema_problems_toJson_eq_nil_iff]

theorem schema_problems_toJson_eq_nil_iff (d : Descriptor) :
    schema.problems d.toJson = [] ↔ d.Valid := by
  rw [schema, toJson, closedObject_problems_obj_eq_nil_iff (by simp)
    (by simp [List.lookup_cons, -List.lookup_isSome_iff])]
  simp only [List.forall_mem_cons, List.not_mem_nil, false_implies, implies_true, and_true]
  simp only [List.lookup_cons, String.reduceBEq, Option.some.injEq, forall_eq',
    equalsText_problems_eq_nil_iff, slugText_problems_eq_nil_iff, filledText_problems_eq_nil_iff,
    frontend_problems_eq_nil_iff, identityProvider_problems_eq_nil_iff,
    entries_problems_eq_nil_iff, Json.str.injEq, exists_eq_left']
  constructor
  · rintro ⟨hversion, hid, henvironment, hdomain, hportal, ⟨hprovider, hissuer, hrealm⟩, hservices⟩
    exact ⟨hversion, hid, henvironment, hdomain, hportal, hprovider, hissuer, hrealm, hservices⟩
  · intro h
    exact ⟨h.version_eq, h.deploymentId_slug, h.environment_slug, h.baseDomain_filled,
      h.portalUrl_valid, ⟨h.providerUrl_valid, h.issuerUrl_valid, h.realm_filled⟩, h.services⟩

/-! ## The check -/

theorem check_of_problems_eq_nil {document : Json} (h : schema.problems document = []) :
    check document = .ok () := by
  unfold check Schema.report
  rw [h, List.mergeSort_nil]

theorem check_of_problems_ne_nil {document : Json} (h : schema.problems document ≠ []) :
    ∃ ps, check document = .error (.badDescriptor ps) := by
  unfold check
  split
  · rename_i hnil
    have hperm := List.mergeSort_perm (schema.problems document) fun p q =>
      (comparePaths p.path q.path).isLE
    exact absurd (List.Perm.nil_eq (hnil ▸ hperm)).symm h
  · exact ⟨_, rfl⟩

theorem problems_eq_nil_of_check {document : Json} (h : check document = .ok ()) :
    schema.problems document = [] := by
  by_contra hne
  obtain ⟨ps, herror⟩ := check_of_problems_ne_nil hne
  rw [herror] at h
  cases h

theorem check_toJson_of_valid {d : Descriptor} (h : d.Valid) : check d.toJson = .ok () :=
  check_of_problems_eq_nil ((schema_problems_toJson_eq_nil_iff d).2 h)

theorem check_toJson_of_not_valid {d : Descriptor} (h : ¬d.Valid) :
    ∃ ps, check d.toJson = .error (.badDescriptor ps) :=
  check_of_problems_ne_nil fun hnil => h ((schema_problems_toJson_eq_nil_iff d).1 hnil)

end Descriptor
end StackCompiler
