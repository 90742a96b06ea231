import StackCompiler.Proofs.Data.Reading
import StackCompiler.Proofs.Descriptor.Validity
import StackCompiler.Proofs.Json.Same

/-!
# Documents and descriptors

A document that is the same value as that of a descriptor is read as this descriptor
(`Descriptor.ofJson_of_same`), and every document that satisfies the schema is the same value as
that of some descriptor (`Descriptor.acceptsOnly_schema`). So reading accepts what the
schema accepts, and loses nothing of it.
-/

namespace StackCompiler

open Json (Same)

/-! ## Data of documents -/

namespace Data

theorem ofItems_eq_map : ∀ vs : List Json, ofItems vs = vs.map ofJson
  | [] => rfl
  | v :: vs => by rw [ofItems, ofItems_eq_map vs, List.map_cons]

theorem lookup_ofMembers {k : String} : ∀ {ms : List (String × Json)},
    (ofMembers ms).lookup (.str k) = (ms.lookup k).map ofJson
  | [] => rfl
  | (k', v) :: ms => by
    have hkey : ((Scalar.str k == Scalar.str k') : Bool) = (k == k') := rfl
    rw [ofMembers, List.lookup_cons, List.lookup_cons, hkey, lookup_ofMembers]
    cases k == k' <;> rfl

end Data

/-! ## Fields of documents -/

namespace Decode

variable {α : Type} {ms : List (String × Json)} {name : FieldName} {decode : Data → Decoded α}
  {v : Json} {a : α}

theorem find?_of_lookup (h : ms.lookup name.written = some v) :
    find? (Data.ofMembers ms) name = some (name.written, .ofJson v) := by
  rw [find?, Data.lookup_ofMembers, h]
  rfl

theorem find?_of_lookup_none (hwritten : ms.lookup name.written = none)
    (hown : ms.lookup name.own = none) : find? (Data.ofMembers ms) name = none := by
  rw [find?, Data.lookup_ofMembers, hwritten, Data.lookup_ofMembers, hown]
  rfl

theorem required_of_lookup (h : ms.lookup name.written = some v)
    (hdecode : decode (.ofJson v) = .ok a) :
    required (Data.ofMembers ms) name decode = .ok a := by
  rw [required, find?_of_lookup h]
  exact Decoded.under_eq_ok.2 hdecode

theorem optional_of_lookup {default : α} (h : ms.lookup name.written = some v)
    (hdecode : decode (.ofJson v) = .ok a) :
    optional (Data.ofMembers ms) name default decode = .ok a := by
  rw [optional, find?_of_lookup h]
  exact Decoded.under_eq_ok.2 hdecode

/-- A member that is left out where there is no value is read back. -/
theorem maybe_of_lookup {f : α → Json} {a? : Option α} (h : ms.lookup name.written = a?.map f)
    (hown : ms.lookup name.own = none ∨ name.own = name.written)
    (hnull : ∀ a, (Data.ofJson (f a)).isNull = false)
    (hdecode : ∀ a, decode (.ofJson (f a)) = .ok a) :
    maybe (Data.ofMembers ms) name decode = .ok a? := by
  cases a? with
  | none =>
    have hnone : ms.lookup name.own = none := by
      rcases hown with hown | hown
      · exact hown
      · rw [hown]
        exact h
    rw [maybe, optional, find?_of_lookup_none h hnone]
  | some a =>
    refine optional_of_lookup h ?_
    rw [nullable, hnull, hdecode]
    rfl

theorem items_of_forall₂ {xs : List Data} {as : List α}
    (h : List.Forall₂ (fun x a => decode x = .ok a) xs as) : items decode xs = .ok as := by
  refine Decoded.all_of_forall₂ ?_
  suffices ∀ n, List.Forall₂
      (fun (x : Data × Nat) a => (decode x.1).under (.index x.2) = .ok a) (xs.zipIdx n) as from
    this 0
  induction h with
  | nil => exact fun _ => .nil
  | cons hx _ ih =>
    intro n
    rw [List.zipIdx_cons]
    exact .cons (Decoded.under_eq_ok.2 hx) (ih _)

theorem list_ofJson {vs : List Json} {as : List α}
    (h : List.Forall₂ (fun v a => decode (.ofJson v) = .ok a) vs as) :
    list decode (.ofJson (.arr vs)) = .ok as := by
  rw [Data.ofJson, Data.ofItems_eq_map]
  exact items_of_forall₂ (List.forall₂_map_left_iff.2 h)

theorem list_text_ofStrs (xs : List String) : list text (.ofJson (.ofStrs xs)) = .ok xs := by
  refine list_ofJson (List.forall₂_map_left_iff.2 (List.forall₂_same.2 fun x _ => ?_))
  rfl

end Decode

namespace Descriptor

open Schema

/-! ## Reading what was written -/

theorem decode_toJson_access (a : Access) : Access.decode (.ofJson a.toJson) = .ok a := by
  cases a <;> rfl

section Reading

variable {ms : List (String × Json)}

theorem required_text (name : Decode.FieldName) {s : String}
    (h : ms.lookup name.written = some (.str s)) :
    Decode.required (Data.ofMembers ms) name Decode.text = .ok s :=
  Decode.required_of_lookup h rfl

theorem maybe_text {name : String} {s? : Option String} (h : ms.lookup name = s?.map .str) :
    Decode.maybe (Data.ofMembers ms) (.plain name) Decode.text = .ok s? :=
  Decode.maybe_of_lookup h (.inr rfl) (fun _ => rfl) fun _ => rfl

theorem Entry.decode_of_lookup {e : Entry}
    (h : ∀ k, Option.Rel Same (e.members.lookup k) (ms.lookup k)) :
    Entry.decode (Data.ofMembers ms) = .ok e := by
  have hid := h "id"
  have hname := h "name"
  have hurl := h "url"
  have hprotected := h "protected"
  have haccess := h "authType"
  have hgroup := h "group"
  have hicon := h "icon"
  have hdescription := h "description"
  have hroles := h "requiredRoles"
  have hown := h "required_roles"
  simp only [Entry.lookup_members, List.lookup_cons, List.lookup_nil, String.reduceBEq,
    String.reduceEq, if_true, if_false, Option.none_or, Option.or_none, Access.toJson,
    Same.rel_some_str_iff, Same.rel_some_bool_iff, Same.rel_none_iff,
    Same.rel_map_iff fun _ _ => Same.str_iff, Same.rel_map_iff fun _ _ => Same.ofStrs_iff] at *
  have hbool : Decode.required (Data.ofMembers ms) (.plain "protected") Decode.bool =
      .ok e.isProtected :=
    Decode.required_of_lookup hprotected rfl
  have hkind : Decode.required (Data.ofMembers ms) ⟨"authType", "auth_type"⟩ Access.decode =
      .ok e.access :=
    Decode.required_of_lookup haccess (decode_toJson_access e.access)
  have hlist : Decode.maybe (Data.ofMembers ms) ⟨"requiredRoles", "required_roles"⟩
      (Decode.list Decode.text) = .ok e.roles :=
    Decode.maybe_of_lookup hroles (.inl hown) (fun _ => rfl) Decode.list_text_ofStrs
  simp only [Entry.decode, required_text (.plain "id") hid, required_text (.plain "name") hname,
    required_text (.plain "url") hurl, hbool, hkind, maybe_text hgroup, maybe_text hicon, maybe_text hdescription, hlist]
  rfl

theorem Entry.decode_of_same {e : Entry} {v : Json} (h : Same e.toJson v) :
    Decode.record Entry.decode (.ofJson v) = .ok e := by
  obtain ⟨ms, rfl, hlookup⟩ := Same.obj_iff.1 (e.toJson_eq ▸ h)
  exact Entry.decode_of_lookup hlookup

theorem IdentityProvider.decode_of_same {p : IdentityProvider} {v : Json} (h : Same p.toJson v) :
    Decode.record IdentityProvider.decode (.ofJson v) = .ok p := by
  obtain ⟨ms, rfl, hlookup⟩ := Same.obj_iff.1 h
  have hpublic := hlookup "publicUrl"
  have hissuer := hlookup "issuerUrl"
  have hrealm := hlookup "realm"
  simp only [List.lookup_cons, String.reduceBEq, Same.rel_some_str_iff] at hpublic hissuer hrealm
  change IdentityProvider.decode (Data.ofMembers ms) = _
  rw [IdentityProvider.decode, required_text _ hpublic, required_text _ hissuer,
    required_text (.plain "realm") hrealm]
  rfl

theorem decodeFrontend_of_same {url : String} {v : Json}
    (h : Same (.obj [("publicUrl", .str url)]) v) :
    Decode.record decodeFrontend (.ofJson v) = .ok url := by
  obtain ⟨ms, rfl, hlookup⟩ := Same.obj_iff.1 h
  have hpublic := hlookup "publicUrl"
  simp only [List.lookup_cons, String.reduceBEq, Same.rel_some_str_iff] at hpublic
  exact required_text _ hpublic

theorem decode_of_same {d : Descriptor} {v : Json} (h : Same d.toJson v) :
    Decode.record decode (.ofJson v) = .ok d := by
  obtain ⟨ms, rfl, hlookup⟩ := Same.obj_iff.1 h
  have hversion := hlookup "version"
  have hdeployment := hlookup "deploymentId"
  have henvironment := hlookup "environment"
  have hdomain := hlookup "baseDomain"
  have hfrontend := hlookup "frontend"
  have hprovider := hlookup "identityProvider"
  have hservices := hlookup "services"
  simp only [List.lookup_cons, String.reduceBEq, Same.rel_some_str_iff] at hversion hdeployment
  simp only [List.lookup_cons, String.reduceBEq, Same.rel_some_str_iff] at henvironment hdomain
  simp only [List.lookup_cons, String.reduceBEq, Same.rel_some_iff] at hfrontend hprovider hservices
  obtain ⟨frontend, hfrontend, hurl⟩ := hfrontend
  obtain ⟨provider, hprovider, hidentity⟩ := hprovider
  obtain ⟨services, hservices, hsame⟩ := hservices
  obtain ⟨entries, rfl, hentries⟩ := Same.arr_iff.1 hsame
  have hportal : Decode.required (Data.ofMembers ms) (.plain "frontend")
      (Decode.record decodeFrontend) = .ok d.portalUrl :=
    Decode.required_of_lookup hfrontend (decodeFrontend_of_same hurl)
  have hidentity' : Decode.required (Data.ofMembers ms) ⟨"identityProvider", "identity_provider"⟩
      (Decode.record IdentityProvider.decode) = .ok d.identityProvider :=
    Decode.required_of_lookup hprovider (IdentityProvider.decode_of_same hidentity)
  have hlist : Decode.optional (Data.ofMembers ms) (.plain "services") []
      (Decode.list (Decode.record Entry.decode)) = .ok d.services := by
    refine Decode.optional_of_lookup hservices (Decode.list_ofJson ?_)
    exact ((List.forall₂_map_left_iff.1 hentries).imp fun e v => Entry.decode_of_same).flip
  change decode (Data.ofMembers ms) = _
  rw [decode, required_text (.plain "version") hversion, required_text _ hdeployment,
    required_text (.plain "environment") henvironment, required_text _ hdomain, hportal, hidentity',
    hlist]
  rfl

end Reading

/-- A document that is the same value as that of a valid descriptor is read as this descriptor. -/
theorem ofJson_of_same {d : Descriptor} {document : Json} (hcheck : check document = .ok ())
    (h : Same d.toJson document) : ofJson document = .ok d := by
  rw [ofJson, hcheck]
  exact Decoded.toExcept_eq_ok.2 (decode_of_same h)

/-! ## What the schema accepts -/

/-- What the schema accepts is written from some value. -/
def AcceptsOnly {α : Type} (part : Schema) (f : α → Json) : Prop :=
  ∀ v, part.problems v = [] → ∃ a, Same (f a) v

section Accepting

variable {α : Type} {ms : List (String × Json)} {k : String} {part : Schema} {f : α → Json}

theorem AcceptsOnly.required (hpart : AcceptsOnly part f) (hsome : (ms.lookup k).isSome)
    (h : ∀ w, ms.lookup k = some w → part.problems w = []) :
    ∃ a, Option.Rel Same (some (f a)) (ms.lookup k) := by
  obtain ⟨v, hv⟩ := Option.isSome_iff_exists.1 hsome
  obtain ⟨a, ha⟩ := hpart v (h v hv)
  exact ⟨a, hv ▸ .some ha⟩

theorem AcceptsOnly.optional (hpart : AcceptsOnly part f)
    (h : ∀ w, ms.lookup k = some w → part.problems w = []) :
    ∃ a? : Option α, Option.Rel Same (a?.map f) (ms.lookup k) := by
  cases hv : ms.lookup k with
  | none => exact ⟨none, .none⟩
  | some v =>
    obtain ⟨a, ha⟩ := hpart v (h v hv)
    exact ⟨some a, .some ha⟩

theorem AcceptsOnly.items (hpart : AcceptsOnly part f) : ∀ {ws : List Json},
    (∀ w ∈ ws, part.problems w = []) → ∃ as : List α, List.Forall₂ Same (as.map f) ws
  | [], _ => ⟨[], .nil⟩
  | w :: ws, h => by
    obtain ⟨hw, hws⟩ := List.forall_mem_cons.1 h
    obtain ⟨a, ha⟩ := hpart w hw
    obtain ⟨as, has⟩ := hpart.items hws
    exact ⟨a :: as, .cons ha has⟩

end Accepting

theorem acceptsOnly_str {part : Schema} {p : String → Prop}
    (h : ∀ v, part.problems v = [] → ∃ s, v = .str s ∧ p s) : AcceptsOnly part .str := by
  intro v hv
  obtain ⟨s, rfl, -⟩ := h v hv
  exact ⟨s, .str s⟩

theorem acceptsOnly_slugText : AcceptsOnly slugText .str :=
  acceptsOnly_str fun _ => slugText_problems_eq_nil_iff.1

theorem acceptsOnly_urlText : AcceptsOnly urlText .str :=
  acceptsOnly_str fun _ => urlText_problems_eq_nil_iff.1

theorem acceptsOnly_filledText : AcceptsOnly filledText .str :=
  acceptsOnly_str fun _ => filledText_problems_eq_nil_iff.1

theorem acceptsOnly_equalsText {s : String} : AcceptsOnly (equalsText s) .str :=
  acceptsOnly_str fun _ h => ⟨s, equalsText_problems_eq_nil_iff.1 h, rfl⟩

theorem acceptsOnly_string : AcceptsOnly (kind .string) .str := by
  intro v hv
  have hholds := kind_problems_eq_nil_iff.1 hv
  cases v with
  | str s => exact ⟨s, .str s⟩
  | _ => cases hholds

theorem acceptsOnly_boolean : AcceptsOnly (kind .boolean) .bool := by
  intro v hv
  have hholds := kind_problems_eq_nil_iff.1 hv
  cases v with
  | bool b => exact ⟨b, .bool b⟩
  | _ => cases hholds

theorem acceptsOnly_access : AcceptsOnly (oneOf (Access.words.map (·.1))) Access.toJson := by
  intro v hv
  obtain ⟨s, hs, rfl⟩ := oneOf_problems_eq_nil_iff.1 hv
  simp only [Access.words, List.map_cons, List.map_nil, List.mem_cons, List.not_mem_nil,
    or_false] at hs
  rcases hs with rfl | rfl | rfl
  · exact ⟨.free, .str _⟩
  · exact ⟨.proxy, .str _⟩
  · exact ⟨.inApp, .str _⟩

theorem acceptsOnly_someRoles : AcceptsOnly someRoles .ofStrs := by
  intro v hv
  obtain ⟨vs, rfl, -, hslugs⟩ := someRoles_problems_eq_nil_iff.1 hv
  obtain ⟨roles, hroles⟩ :=
    acceptsOnly_slugText.items fun w hw => slugText_problems_eq_nil_iff.2 (hslugs w hw)
  exact ⟨roles, .arr hroles⟩

theorem acceptsOnly_entrySchema : AcceptsOnly entrySchema Entry.toJson := by
  intro v hv
  rw [entrySchema, all_problems_eq_nil_iff] at hv
  obtain ⟨ms, rfl, hknown, hrequired, hparts⟩ :=
    closedObject_problems_eq_nil_iff.1 (hv _ (List.mem_cons_self ..))
  simp only [List.forall_mem_cons] at hrequired hparts
  obtain ⟨hid, hname, hurl, hprotected, haccess, -⟩ := hrequired
  obtain ⟨hid', hname', hurl', hprotected', haccess', hgroup, hicon, hdescription, hroles, -⟩ :=
    hparts
  obtain ⟨id, hid⟩ := acceptsOnly_slugText.required hid hid'
  obtain ⟨name, hname⟩ := acceptsOnly_filledText.required hname hname'
  obtain ⟨url, hurl⟩ := acceptsOnly_urlText.required hurl hurl'
  obtain ⟨isProtected, hprotected⟩ := acceptsOnly_boolean.required hprotected hprotected'
  obtain ⟨access, haccess⟩ := acceptsOnly_access.required haccess haccess'
  obtain ⟨group, hgroup⟩ := acceptsOnly_filledText.optional hgroup
  obtain ⟨icon, hicon⟩ := acceptsOnly_filledText.optional hicon
  obtain ⟨description, hdescription⟩ := acceptsOnly_string.optional hdescription
  obtain ⟨roles, hroles⟩ := acceptsOnly_someRoles.optional hroles
  let e : Entry := ⟨id, name, url, isProtected, access, group, icon, description, roles⟩
  refine ⟨e, ?_⟩
  rw [Entry.toJson_eq]
  refine Same.obj_of_names (fun k hk => e.key_mem_members hk) hknown ?_
  simp only [List.forall_mem_cons, Entry.lookup_members, List.lookup_cons, List.lookup_nil,
    String.reduceBEq, String.reduceEq, if_true, if_false, Option.none_or, Option.or_none]
  exact ⟨hid, hname, hurl, hprotected, haccess, hgroup, hicon, hdescription, hroles,
    fun k hk => absurd hk List.not_mem_nil⟩

theorem acceptsOnly_frontend :
    AcceptsOnly (closedObject ["publicUrl"] [("publicUrl", urlText)])
      fun url => .obj [("publicUrl", .str url)] := by
  intro v hv
  obtain ⟨ms, rfl, hknown, hrequired, hparts⟩ := closedObject_problems_eq_nil_iff.1 hv
  simp only [List.forall_mem_cons] at hrequired hparts
  obtain ⟨url, hurl⟩ := acceptsOnly_urlText.required hrequired.1 hparts.1
  refine ⟨url, Same.obj_of_names (fun k hk => hk) hknown ?_⟩
  simp only [List.map_cons, List.forall_mem_cons, List.lookup_cons, String.reduceBEq]
  exact ⟨hurl, fun k hk => absurd hk List.not_mem_nil⟩

theorem acceptsOnly_identityProvider :
    AcceptsOnly (closedObject ["publicUrl", "issuerUrl", "realm"] [("publicUrl", urlText),
      ("issuerUrl", urlText), ("realm", filledText)]) IdentityProvider.toJson := by
  intro v hv
  obtain ⟨ms, rfl, hknown, hrequired, hparts⟩ := closedObject_problems_eq_nil_iff.1 hv
  simp only [List.forall_mem_cons] at hrequired hparts
  obtain ⟨hpublic, hissuer, hrealm, -⟩ := hrequired
  obtain ⟨hpublic', hissuer', hrealm', -⟩ := hparts
  obtain ⟨publicUrl, hpublic⟩ := acceptsOnly_urlText.required hpublic hpublic'
  obtain ⟨issuerUrl, hissuer⟩ := acceptsOnly_urlText.required hissuer hissuer'
  obtain ⟨realm, hrealm⟩ := acceptsOnly_filledText.required hrealm hrealm'
  refine ⟨⟨publicUrl, issuerUrl, realm⟩, Same.obj_of_names (fun k hk => hk) hknown ?_⟩
  simp only [List.map_cons, List.forall_mem_cons, List.lookup_cons, String.reduceBEq]
  exact ⟨hpublic, hissuer, hrealm, fun k hk => absurd hk List.not_mem_nil⟩

theorem acceptsOnly_services :
    AcceptsOnly (all [kind .array, items entrySchema])
      fun entries : List Entry => .arr (entries.map Entry.toJson) := by
  intro v hv
  rw [all_problems_eq_nil_iff] at hv
  simp only [List.forall_mem_cons, kind_problems_eq_nil_iff] at hv
  obtain ⟨harray, hitems, -⟩ := hv
  cases v with
  | arr ws =>
    obtain ⟨entries, hentries⟩ :=
      acceptsOnly_entrySchema.items (items_problems_eq_nil_iff.1 hitems)
    exact ⟨entries, .arr hentries⟩
  | _ => cases harray

/-- Every document that satisfies the schema is the same value as that of some descriptor. -/
theorem acceptsOnly_schema : AcceptsOnly schema toJson := by
  intro v hv
  obtain ⟨ms, rfl, hknown, hrequired, hparts⟩ := closedObject_problems_eq_nil_iff.1 hv
  simp only [List.forall_mem_cons] at hrequired hparts
  obtain ⟨hversion, hdeployment, henvironment, hdomain, hfrontend, hprovider, hservices, -⟩ :=
    hrequired
  obtain ⟨hversion', hdeployment', henvironment', hdomain', hfrontend', hprovider', hservices',
    -⟩ := hparts
  obtain ⟨version, hversion⟩ := acceptsOnly_equalsText.required hversion hversion'
  obtain ⟨deploymentId, hdeployment⟩ := acceptsOnly_slugText.required hdeployment hdeployment'
  obtain ⟨environment, henvironment⟩ := acceptsOnly_slugText.required henvironment henvironment'
  obtain ⟨baseDomain, hdomain⟩ := acceptsOnly_filledText.required hdomain hdomain'
  obtain ⟨portalUrl, hfrontend⟩ := acceptsOnly_frontend.required hfrontend hfrontend'
  obtain ⟨provider, hprovider⟩ := acceptsOnly_identityProvider.required hprovider hprovider'
  obtain ⟨services, hservices⟩ := acceptsOnly_services.required hservices hservices'
  refine ⟨⟨version, deploymentId, environment, baseDomain, portalUrl, provider, services⟩,
    Same.obj_of_names (fun k hk => hk) hknown ?_⟩
  simp only [List.map_cons, List.forall_mem_cons, List.lookup_cons, String.reduceBEq]
  exact ⟨hversion, hdeployment, henvironment, hdomain, hfrontend, hprovider, hservices,
    fun k hk => absurd hk List.not_mem_nil⟩

/-- What the check accepts is read, as a descriptor whose document is the same value. -/
theorem exists_ofJson_of_check {document : Json} (h : check document = .ok ()) :
    ∃ d, ofJson document = .ok d ∧ Same d.toJson document := by
  obtain ⟨d, hd⟩ := acceptsOnly_schema document (problems_eq_nil_of_check h)
  exact ⟨d, ofJson_of_same h hd, hd⟩

end Descriptor
end StackCompiler
