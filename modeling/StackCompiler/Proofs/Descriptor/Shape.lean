import StackCompiler.Proofs.Descriptor.Validity
import StackCompiler.Proofs.Text.Language

/-!
# The documents that are descriptors

`Descriptor.IsDocument` says what a descriptor and its entries look like, without the rules of the
schema: a service is either free or guarded, where the schema has two implications. The check against
the schema accepts these documents and no others (`Descriptor.check_eq_ok_iff`).
-/

namespace StackCompiler.Descriptor

open Schema Text

/-! ## Forms of values -/

/-- A text of some form. -/
def IsText (P : String → Prop) (v : Json) : Prop := ∃ s, v = .str s ∧ P s

def IsList (P : Json → Prop) (v : Json) : Prop := ∃ vs, v = .arr vs ∧ ∀ w ∈ vs, P w

def IsSlug (v : Json) : Prop := IsText (IsLine slugLanguage) v

def IsUrl (v : Json) : Prop := IsText (IsLine httpUrlLanguage) v

def IsFilled (v : Json) : Prop := IsText (· ≠ "") v

section

variable (ms : List (String × Json)) (name : String) (P : Json → Prop)

/-- There is a member of this name, of some form. -/
def Has : Prop := ∃ w, ms.lookup name = some w ∧ P w

/-- If there is a member of this name, it is of some form. -/
def MayHave : Prop := ∀ w, ms.lookup name = some w → P w

/-- All members have one of the names. -/
def HasOnly (names : List String) : Prop := ∀ k ∈ ms.map (·.1), k ∈ names

end

/-! ## Documents -/

/-- The service is free and not protected, or guarded, protected and open to some roles. -/
inductive HasAccess (ms : List (String × Json)) : Prop where
  | free : Has ms "authType" (· = .str "none") → Has ms "protected" (· = .bool false) →
      ms.lookup "requiredRoles" = none → HasAccess ms
  | guarded : Has ms "authType" (fun v => v = .str "proxy-auth" ∨ v = .str "ui-auth") →
      Has ms "protected" (· = .bool true) →
      Has ms "requiredRoles" (fun v => v ≠ .arr [] ∧ IsList IsSlug v) → HasAccess ms

structure IsEntry (ms : List (String × Json)) : Prop where
  known : HasOnly ms ["id", "name", "url", "protected", "authType", "group", "icon", "description",
    "requiredRoles"]
  id : Has ms "id" IsSlug
  name : Has ms "name" IsFilled
  url : Has ms "url" IsUrl
  group : MayHave ms "group" IsFilled
  icon : MayHave ms "icon" IsFilled
  description : MayHave ms "description" (IsText fun _ => True)
  access : HasAccess ms

structure IsFrontend (ms : List (String × Json)) : Prop where
  known : HasOnly ms ["publicUrl"]
  publicUrl : Has ms "publicUrl" IsUrl

structure IsProvider (ms : List (String × Json)) : Prop where
  known : HasOnly ms ["publicUrl", "issuerUrl", "realm"]
  publicUrl : Has ms "publicUrl" IsUrl
  issuerUrl : Has ms "issuerUrl" IsUrl
  realm : Has ms "realm" IsFilled

/-- An object with members of some form. -/
def IsObject (P : List (String × Json) → Prop) (v : Json) : Prop := ∃ ms, v = .obj ms ∧ P ms

structure IsDocument (ms : List (String × Json)) : Prop where
  known : HasOnly ms ["version", "deploymentId", "environment", "baseDomain", "frontend",
    "identityProvider", "services"]
  version : Has ms "version" (· = .str "1")
  deploymentId : Has ms "deploymentId" IsSlug
  environment : Has ms "environment" IsSlug
  baseDomain : Has ms "baseDomain" IsFilled
  frontend : Has ms "frontend" (IsObject IsFrontend)
  identityProvider : Has ms "identityProvider" (IsObject IsProvider)
  services : Has ms "services" (IsList (IsObject IsEntry))

/-! ## Schemas of the forms -/

variable {v : Json} {ms : List (String × Json)} {name : String} {P : Json → Prop}

theorem has_iff : Has ms name P ↔ (ms.lookup name).isSome ∧ MayHave ms name P := by
  unfold Has MayHave
  cases ms.lookup name <;> simp

theorem slugText_problems_iff : slugText.problems v = [] ↔ IsSlug v := by
  rw [slugText_problems_eq_nil_iff]
  simp only [isSlug_iff_isLine, IsSlug, IsText]

theorem urlText_problems_iff : urlText.problems v = [] ↔ IsUrl v := by
  rw [urlText_problems_eq_nil_iff]
  simp only [isHttpUrl_iff_isLine, IsUrl, IsText]

theorem filledText_problems_iff : filledText.problems v = [] ↔ IsFilled v :=
  filledText_problems_eq_nil_iff

theorem string_problems_iff : (kind .string).problems v = [] ↔ IsText (fun _ => True) v := by
  rw [kind_problems_eq_nil_iff]
  cases v <;> simp [ValueKind.holds, IsText]

theorem boolean_problems_iff : (kind .boolean).problems v = [] ↔ ∃ b, v = .bool b := by
  rw [kind_problems_eq_nil_iff]
  cases v <;> simp [ValueKind.holds]

theorem list_problems_iff {part : Schema} (h : ∀ w, part.problems w = [] ↔ P w) :
    (all [kind .array, items part]).problems v = [] ↔ IsList P v := by
  rw [all_problems_eq_nil_iff]
  simp only [List.forall_mem_cons, kind_problems_eq_nil_iff]
  cases v with
  | arr vs => simp [ValueKind.holds, items_problems_eq_nil_iff, IsList, h]
  | _ => simp [ValueKind.holds, IsList]

theorem someRoles_problems_iff :
    someRoles.problems v = [] ↔ v ≠ .arr [] ∧ IsList IsSlug v := by
  rw [someRoles, all_problems_eq_nil_iff]
  simp only [List.forall_mem_cons, kind_problems_eq_nil_iff, someItem_problems_eq_nil_iff]
  cases v with
  | arr vs =>
    simp [ValueKind.holds, items_problems_eq_nil_iff, slugText_problems_iff, IsList]
  | _ => simp [ValueKind.holds, IsList]

/-! ## Access -/

theorem words_problems_iff : (oneOf (Access.words.map (·.1))).problems v = [] ↔
    v = .str "none" ∨ v = .str "proxy-auth" ∨ v = .str "ui-auth" := by
  rw [oneOf_problems_eq_nil_iff]
  simp [Access.words, Access.word]

/-- Where the members of a service have the right forms, the two rules on its access leave the two
ways in which it may be open. -/
theorem hasAccess_iff : HasAccess ms ↔
    Has ms "authType" (fun v => v = .str "none" ∨ v = .str "proxy-auth" ∨ v = .str "ui-auth") ∧
      Has ms "protected" (fun v => ∃ b, v = .bool b) ∧
      MayHave ms "requiredRoles" (fun v => v ≠ .arr [] ∧ IsList IsSlug v) ∧
      freeRule.problems (.obj ms) = [] ∧ guardedRule.problems (.obj ms) = [] := by
  rw [freeRule_problems_obj_iff, guardedRule_problems_obj_iff]
  constructor
  · rintro (⟨⟨word, hword, rfl⟩, ⟨shown, hshown, rfl⟩, hroles⟩ |
      ⟨⟨word, hword, heq⟩, ⟨shown, hshown, rfl⟩, roles, hroles, hslugs⟩)
    · refine ⟨⟨_, hword, .inl rfl⟩, ⟨_, hshown, false, rfl⟩, ?_, fun _ => ⟨?_, hroles⟩, fun h => ?_⟩
      · intro w hw
        rw [hroles] at hw
        cases hw
      · intro w hw
        exact Option.some.inj (hw.symm.trans hshown)
      · exact absurd (h _ hword) (by simp)
    · refine ⟨⟨_, hword, .inr heq⟩, ⟨_, hshown, true, rfl⟩, ?_, fun h => ?_, fun _ => ⟨?_, ?_⟩⟩
      · intro w hw
        exact Option.some.inj (hroles.symm.trans hw) ▸ hslugs
      · rcases heq with rfl | rfl <;> exact absurd (h _ hword) (by simp)
      · intro w hw
        exact Option.some.inj (hw.symm.trans hshown)
      · rw [hroles, Option.isSome_some]
  · rintro ⟨⟨word, hword, heq⟩, ⟨shown, hshown, -⟩, hslugs, hfree, hguarded⟩
    have hunique : ∀ {P : Json → Prop}, P word → MayHave ms "authType" P := fun hP w hw =>
      Option.some.inj (hword.symm.trans hw) ▸ hP
    rcases heq with rfl | heq
    · obtain ⟨hprotected, hroles⟩ := hfree (hunique rfl)
      exact .free ⟨_, hword, rfl⟩ ⟨_, hshown, hprotected _ hshown⟩ hroles
    · obtain ⟨hprotected, hroles⟩ := hguarded (hunique heq)
      exact .guarded ⟨_, hword, heq⟩ ⟨_, hshown, hprotected _ hshown⟩ (has_iff.2 ⟨hroles, hslugs⟩)

/-! ## Objects -/

/-- A closed object is accepted where it has the members that are required, and perhaps some of the
others, each of them accepted. -/
theorem closedObject_problems_iff (required optional : List (String × Schema)) :
    (closedObject (required.map (·.1)) (required ++ optional)).problems v = [] ↔
      IsObject (fun ms => HasOnly ms ((required ++ optional).map (·.1)) ∧
        (∀ part ∈ required, Has ms part.1 fun w => part.2.problems w = []) ∧
          ∀ part ∈ optional, MayHave ms part.1 fun w => part.2.problems w = []) v := by
  rw [closedObject_problems_eq_nil_iff]
  refine exists_congr fun ms => and_congr_right fun _ => and_congr_right fun _ => ?_
  simp only [has_iff, List.forall_mem_map, List.forall_mem_append]
  constructor
  · rintro ⟨hsome, hrequired, hoptional⟩
    exact ⟨fun part hpart => ⟨hsome part hpart, hrequired part hpart⟩, hoptional⟩
  · rintro ⟨hrequired, hoptional⟩
    exact ⟨fun part hpart => (hrequired part hpart).1, fun part hpart => (hrequired part hpart).2,
      hoptional⟩

theorem isObject_congr {P Q : List (String × Json) → Prop} (h : ∀ ms, P ms ↔ Q ms) :
    IsObject P v ↔ IsObject Q v :=
  exists_congr fun ms => and_congr_right fun _ => h ms

theorem frontend_problems_iff :
    (closedObject ["publicUrl"] [("publicUrl", urlText)]).problems v = [] ↔
      IsObject IsFrontend v := by
  refine (closedObject_problems_iff [("publicUrl", urlText)] []).trans (isObject_congr fun ms => ?_)
  simp only [List.forall_mem_cons, List.not_mem_nil, false_implies, implies_true, and_true,
    urlText_problems_iff]
  constructor
  · rintro ⟨hknown, hurl⟩
    exact ⟨hknown, hurl⟩
  · exact fun h => ⟨h.known, h.publicUrl⟩

theorem provider_problems_iff :
    (closedObject ["publicUrl", "issuerUrl", "realm"] [("publicUrl", urlText),
      ("issuerUrl", urlText), ("realm", filledText)]).problems v = [] ↔ IsObject IsProvider v := by
  refine (closedObject_problems_iff [("publicUrl", urlText), ("issuerUrl", urlText),
    ("realm", filledText)] []).trans (isObject_congr fun ms => ?_)
  simp only [List.forall_mem_cons, List.not_mem_nil, false_implies, implies_true, and_true,
    urlText_problems_iff, filledText_problems_iff]
  constructor
  · rintro ⟨hknown, hpublic, hissuer, hrealm⟩
    exact ⟨hknown, hpublic, hissuer, hrealm⟩
  · exact fun h => ⟨h.known, h.publicUrl, h.issuerUrl, h.realm⟩

theorem entrySchema_problems_iff : entrySchema.problems v = [] ↔ IsObject IsEntry v := by
  have hclosed := closedObject_problems_iff
    [("id", slugText), ("name", filledText), ("url", urlText), ("protected", .kind .boolean),
      ("authType", .oneOf (Access.words.map (·.1)))]
    [("group", filledText), ("icon", filledText), ("description", .kind .string),
      ("requiredRoles", someRoles)] (v := v)
  simp only [List.forall_mem_cons, List.not_mem_nil, false_implies, implies_true, and_true,
    slugText_problems_iff, urlText_problems_iff, filledText_problems_iff, string_problems_iff,
    boolean_problems_iff, words_problems_iff, someRoles_problems_iff] at hclosed
  rw [entrySchema, all_problems_eq_nil_iff, List.forall_mem_cons, List.forall_mem_cons,
    List.forall_mem_singleton]
  constructor
  · rintro ⟨hobject, hfree, hguarded⟩
    obtain ⟨ms, rfl, hknown, ⟨hid, hname, hurl, hprotected, hword⟩, hgroup, hicon, hdescription,
      hroles⟩ := hclosed.1 hobject
    have haccess := hasAccess_iff.2 ⟨hword, hprotected, hroles, hfree, hguarded⟩
    exact ⟨ms, rfl, hknown, hid, hname, hurl, hgroup, hicon, hdescription, haccess⟩
  · rintro ⟨ms, rfl, h⟩
    obtain ⟨hword, hprotected, hroles, hfree, hguarded⟩ := hasAccess_iff.1 h.access
    exact ⟨hclosed.2 ⟨ms, rfl, h.known, ⟨h.id, h.name, h.url, hprotected, hword⟩, h.group, h.icon,
      h.description, hroles⟩, hfree, hguarded⟩

theorem schema_problems_iff : schema.problems v = [] ↔ IsObject IsDocument v := by
  have hclosed := closedObject_problems_iff [
    ("version", .equalsText "1"),
    ("deploymentId", slugText),
    ("environment", slugText),
    ("baseDomain", filledText),
    ("frontend", closedObject ["publicUrl"] [("publicUrl", urlText)]),
    ("identityProvider", closedObject ["publicUrl", "issuerUrl", "realm"]
      [("publicUrl", urlText), ("issuerUrl", urlText), ("realm", filledText)]),
    ("services", .all [.kind .array, .items entrySchema])] [] (v := v)
  refine hclosed.trans (isObject_congr fun ms => ?_)
  simp only [List.forall_mem_cons, List.not_mem_nil, false_implies, implies_true, and_true,
    equalsText_problems_eq_nil_iff, slugText_problems_iff, filledText_problems_iff,
    frontend_problems_iff, provider_problems_iff,
    list_problems_iff fun _ => entrySchema_problems_iff]
  constructor
  · rintro ⟨hknown, hversion, hid, henvironment, hdomain, hfrontend, hprovider, hservices⟩
    exact ⟨hknown, hversion, hid, henvironment, hdomain, hfrontend, hprovider, hservices⟩
  · exact fun h => ⟨h.known, h.version, h.deploymentId, h.environment, h.baseDomain, h.frontend,
      h.identityProvider, h.services⟩

/-- The check accepts the documents of descriptors and no others. -/
theorem check_eq_ok_iff (v : Json) : check v = .ok () ↔ IsObject IsDocument v := by
  rw [← schema_problems_iff]
  exact ⟨problems_eq_nil_of_check, check_of_problems_eq_nil⟩

end StackCompiler.Descriptor
