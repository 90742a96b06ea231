import StackCompiler.Proofs.Data.Ending
import StackCompiler.Proofs.Descriptor.Documents
import StackCompiler.Proofs.Stack.Project

/-!
# Role lists without items

A role list is gone through item by item before it is known to be a list, so that a number or a
truth value in its place ends the reading of a stack file at once (`Declaration.HasFlatRoles`), and
nothing is reported. `Project.parse_reports_iff` says that this is the only way in which parsing
does not either give a stack file or report what is wrong with it.
-/

namespace StackCompiler

open Decode Decoded

/-! ## Declarations -/

/-- What has no items: numbers, truth values and times. -/
def Data.isFlat : Data → Bool
  | .scalar .null | .scalar (.str _) | .scalar (.bytes _) => false
  | .scalar _ => true
  | .list _ | .map _ | .set _ => false

@[simp]
theorem Data.isVacant_list {xs : List Data} : (Data.list xs).isVacant ↔ xs = [] :=
  List.isEmpty_iff

@[simp]
theorem Data.isVacant_map {es : Fields} : (Data.map es).isVacant ↔ es = [] := List.isEmpty_iff

theorem decodeRoles_eq_notIterable {d : Data} : decodeRoles d = .notIterable ↔ d.isFlat := by
  have hitems : ∀ xs, items text xs ≠ .notIterable := fun xs h => by
    obtain ⟨x, -, hx⟩ := items_eq_notIterable.1 h
    exact text_ne_notIterable x hx
  rw [decodeRoles, andThen_eq_notIterable hitems]
  cases d with
  | scalar s => cases s <;> simp [roleItems, Data.isFlat]
  | list xs => simp [roleItems, Data.isFlat]
  | map es => simp [roleItems, Data.isFlat]
  | set ms => simp [roleItems, Data.isFlat]

theorem not_isNull_of_isFlat {d : Data} (h : d.isFlat) : d.isNull = false := by
  cases d with
  | scalar s => cases s <;> first | rfl | cases h
  | _ => rfl

/-- A role list that has no items stands under a name. -/
def FlatRoles (fs : Fields) (name : FieldName) : Prop :=
  ∃ e, find? fs name = some e ∧ e.2.isFlat

theorem maybe_text_ne_notIterable (fs : Fields) (name : FieldName) :
    maybe fs name text ≠ .notIterable := fun h => by
  obtain ⟨e, -, -, he⟩ := maybe_eq_notIterable.1 h
  exact text_ne_notIterable _ he

theorem maybe_decodeRoles_eq_notIterable {fs : Fields} {name : FieldName} :
    maybe fs name decodeRoles = .notIterable ↔ FlatRoles fs name := by
  simp only [maybe_eq_notIterable, decodeRoles_eq_notIterable, FlatRoles]
  exact exists_congr fun e => and_congr_right fun _ =>
    ⟨fun h => h.2, fun h => ⟨not_isNull_of_isFlat h, h⟩⟩

theorem ServiceEntry.decode_eq_notIterable {fs : Fields} :
    ServiceEntry.decode fs = .notIterable ↔ FlatRoles fs ⟨"requiredRoles", "required_roles"⟩ := by
  have haccess : maybe fs ⟨"authType", "auth_type"⟩ Access.decode ≠ .notIterable := fun h => by
    obtain ⟨e, -, -, he⟩ := maybe_eq_notIterable.1 h
    exact member_ne_notIterable _ _ he
  simp only [ServiceEntry.decode, closed_eq_notIterable, seq_eq_notIterable, fmap_eq_notIterable,
    maybe_text_ne_notIterable, haccess, maybe_decodeRoles_eq_notIterable, false_or, or_false]

theorem UserEntry.decode_eq_notIterable {fs : Fields} :
    UserEntry.decode fs = .notIterable ↔ FlatRoles fs (.plain "roles") := by
  have husername : required fs (.plain "username") text ≠ .notIterable := fun h => by
    obtain ⟨e, -, he⟩ := required_eq_notIterable.1 h
    exact text_ne_notIterable _ he
  simp only [UserEntry.decode, closed_eq_notIterable, seq_eq_notIterable, fmap_eq_notIterable,
    maybe_text_ne_notIterable, husername, optional_eq_notIterable, decodeRoles_eq_notIterable,
    false_or, or_false]
  rfl

/-- Some role list of a declaration has no items. -/
inductive Declaration.HasFlatRoles (fs : Fields) : Prop
  | explicit : FlatRoles fs ⟨"roles", "explicit_roles"⟩ → HasFlatRoles fs
  | user {key : String} {users : List Data} {user : Fields} :
    find? fs (.plain "users") = some (key, .list users) → .map user ∈ users →
      FlatRoles user (.plain "roles") → HasFlatRoles fs
  | service {key : String} {services : Fields} {id : Scalar} {service : Fields} :
    find? fs (.plain "services") = some (key, .map services) → (id, .map service) ∈ services →
      FlatRoles service ⟨"requiredRoles", "required_roles"⟩ → HasFlatRoles fs

namespace Declaration

theorem decodeUsers_eq_notIterable {d : Data} : decodeUsers d = .notIterable ↔
    ∃ users user, d = .list users ∧ .map user ∈ users ∧ FlatRoles user (.plain "roles") := by
  have hlist : Decode.list (Decode.record UserEntry.decode) d = .notIterable ↔
      ∃ users user, d = .list users ∧ .map user ∈ users ∧ FlatRoles user (.plain "roles") := by
    rw [list_eq_notIterable (fun s => by simp [Decode.record, fail])]
    simp only [record_eq_notIterable, UserEntry.decode_eq_notIterable]
    constructor
    · rintro ⟨users, rfl, x, hx, user, rfl, hroles⟩
      exact ⟨users, user, rfl, hx, hroles⟩
    · rintro ⟨users, user, rfl, hx, hroles⟩
      exact ⟨users, rfl, _, hx, user, rfl, hroles⟩
  rw [← hlist, decodeUsers]
  by_cases hvacant : d.isVacant
  · rw [if_pos hvacant, hlist]
    refine iff_of_false (by simp) ?_
    rintro ⟨users, user, rfl, hx, -⟩
    exact List.not_mem_nil (Data.isVacant_list.1 hvacant ▸ hx)
  · rw [if_neg hvacant]

/-- A body that is filled has no roles. -/
theorem record_fillBody_eq_notIterable {d : Data} :
    Decode.record ServiceEntry.decode (fillBody d) = .notIterable ↔
      ∃ service, d = .map service ∧ FlatRoles service ⟨"requiredRoles", "required_roles"⟩ := by
  simp only [record_eq_notIterable, ServiceEntry.decode_eq_notIterable, fillBody]
  by_cases hvacant : d.isVacant
  · rw [if_pos hvacant]
    constructor
    · rintro ⟨fs, hfs, e, hfind, -⟩
      cases hfs
      cases hfind
    · rintro ⟨service, rfl, e, hfind, -⟩
      rw [Data.isVacant_map.1 hvacant] at hfind
      cases hfind
  · rw [if_neg hvacant]

theorem decodeServices_eq_notIterable {d : Data} : decodeServices d = .notIterable ↔
    ∃ services id service, d = .map services ∧ (id, .map service) ∈ services ∧
      FlatRoles service ⟨"requiredRoles", "required_roles"⟩ := by
  unfold decodeServices
  by_cases hvacant : d.isVacant
  · rw [if_pos hvacant]
    refine iff_of_false (by simp) ?_
    rintro ⟨services, id, service, rfl, hmem, -⟩
    exact List.not_mem_nil (Data.isVacant_map.1 hvacant ▸ hmem)
  · rw [if_neg hvacant, mapping_eq_notIterable]
    simp only [record_fillBody_eq_notIterable]
    constructor
    · rintro ⟨services, rfl, ⟨id, _⟩, hmem, service, rfl, hroles⟩
      exact ⟨services, id, service, rfl, hmem, hroles⟩
    · rintro ⟨services, id, service, rfl, hmem, hroles⟩
      exact ⟨services, rfl, _, hmem, service, rfl, hroles⟩

theorem decode_eq_notIterable {fs : Fields} : decode fs = .notIterable ↔ HasFlatRoles fs := by
  refine (andThen_eq_notIterable fun d => ?_).trans ?_
  · split <;> simp [fail]
  simp only [seq_eq_notIterable, fmap_eq_notIterable, maybe_decodeRoles_eq_notIterable,
    optional_eq_notIterable, decodeUsers_eq_notIterable, decodeServices_eq_notIterable]
  constructor
  · rintro ((hroles | ⟨⟨key, d⟩, hfind, users, user, rfl, hmem, hroles⟩) |
      ⟨⟨key, d⟩, hfind, services, id, service, rfl, hmem, hroles⟩)
    · exact .explicit hroles
    · exact .user hfind hmem hroles
    · exact .service hfind hmem hroles
  · rintro (hroles | ⟨hfind, hmem, hroles⟩ | ⟨hfind, hmem, hroles⟩)
    · exact .inl (.inl hroles)
    · exact .inl (.inr ⟨_, hfind, _, _, rfl, hmem, hroles⟩)
    · exact .inr ⟨_, hfind, _, _, _, rfl, hmem, hroles⟩

end Declaration

/-! ## Settings and credentials -/

theorem Settings.decode_ne_notIterable (fs : Fields) : Settings.decode fs ≠ .notIterable := by
  have hslug : ∀ d, Settings.slug d ≠ .notIterable := fun d h => by
    refine text_ne_notIterable d ((andThen_eq_notIterable fun s => ?_).1 h)
    split <;> simp [fail]
  have hcertifiable : ∀ s : Settings, (if s.certifiable then .ok s
      else fail (.refused "acmeEmail is required when useHttps is enabled") : Decoded Settings) ≠
        .notIterable := fun s => by
    split <;> simp [fail]
  rw [Settings.decode, ne_eq, andThen_eq_notIterable hcertifiable]
  simp only [Settings.decodeFields, seq_eq_notIterable, fmap_eq_notIterable,
    required_eq_notIterable, optional_eq_notIterable, maybe_eq_notIterable, hslug,
    text_ne_notIterable, bool_ne_notIterable, literal_ne_notIterable, and_false, exists_false,
    or_false, not_false_iff]

theorem Credentials.decode_ne_notIterable (fs : Fields) : Credentials.decode fs ≠ .notIterable := by
  rw [Credentials.decode]
  simp only [ne_eq, seq_eq_notIterable, fmap_eq_notIterable, optional_eq_notIterable,
    maybe_eq_notIterable, text_ne_notIterable, and_false, exists_false, or_false, not_false_iff]

/-! ## Stack files -/

/-- The failures that are reported of data that is no stack file. -/
inductive Failure.IsInvalidConfiguration (source : String) : Failure → Prop
  | notMapping (kind : String) : IsInvalidConfiguration source (.notMapping source kind)
  | sectionNotMapping (name : String) :
    IsInvalidConfiguration source (.sectionNotMapping source name)
  | rejected (issues : List Issue) :
    IsInvalidConfiguration source (.stackFileRejected source issues)

namespace StackFile

variable {source : String} {d : Data} {settings credentials : Fields}

/-- The entries of the credentials without the users. -/
def ownEntries (credentials : Fields) : Fields :=
  credentials.filter fun (k, _) => !(k == .str "users")

/-- The settings and the credentials are read, and then a role list is met that has no items. -/
structure MeetsFlatRoles (source : String) (d : Data) (settings credentials : Fields) : Prop where
  mapping : ∃ es, d = .map es
  settings_found : sectionEntries source "stack" d = .ok settings
  credentials_found : sectionEntries source "credentials" d = .ok credentials
  settings_read : ∃ s, Settings.decode settings = .ok s
  credentials_read : ∃ c, Credentials.decode (ownEntries credentials) = .ok c
  flat : Declaration.HasFlatRoles (declarationEntries credentials d)

theorem sectionEntries_cases (source name : String) (d : Data) :
    (∃ fs, sectionEntries source name d = .ok fs) ∨
      sectionEntries source name d = .error (.sectionNotMapping source name) := by
  unfold sectionEntries
  split
  · exact .inl ⟨_, rfl⟩
  · exact .inl ⟨_, rfl⟩
  · split
    · exact .inl ⟨_, rfl⟩
    · exact .inr rfl

/-- Entries that can name fields. -/
def HasTextKeys (fs : Fields) : Prop := ∀ e ∈ fs, ∃ name, e.1 = .str name

theorem hasTextKeys_nil : HasTextKeys [] := fun _ h => absurd h List.not_mem_nil

theorem hasTextKeys_ofMembers : ∀ ms : List (String × Json), HasTextKeys (Data.ofMembers ms)
  | [] => hasTextKeys_nil
  | (name, _) :: ms => List.forall_mem_cons.2 ⟨⟨name, rfl⟩, hasTextKeys_ofMembers ms⟩

theorem HasTextKeys.ownEntries (h : HasTextKeys credentials) :
    HasTextKeys (ownEntries credentials) := fun e he => h e (List.mem_of_mem_filter he)

theorem HasTextKeys.named_eq {fs : Fields} (h : HasTextKeys fs) : named fs = .ok fs := by
  refine if_pos (List.all_eq_true.2 fun e he => ?_)
  obtain ⟨k, value⟩ := e
  obtain ⟨name, rfl⟩ := h _ he
  rfl

/-- A section of a JSON value has texts as keys. -/
theorem hasTextKeys_of_sectionEntries {name : String} {v : Json} {fs : Fields}
    (h : sectionEntries source name (.ofJson v) = .ok fs) : HasTextKeys fs := by
  unfold sectionEntries at h
  split at h
  · cases h
    exact hasTextKeys_nil
  · rename_i fs' hget
    cases h
    cases v with
    | obj ms =>
      change (Data.ofMembers ms).lookup (.str name) = _ at hget
      rw [Data.lookup_ofMembers] at hget
      obtain ⟨w, -, hw⟩ := Option.map_eq_some_iff.1 hget
      cases w with
      | obj ms' =>
        cases hw
        exact hasTextKeys_ofMembers ms'
      | _ => cases hw
    | _ => cases hget
  · split at h
    · cases h
      exact hasTextKeys_nil
    · cases h

/-- The sections of a mapping, read one after the other. -/
theorem ofData_map {es : Fields}
    (hsettings : sectionEntries source "stack" (.map es) = .ok settings)
    (hcredentials : sectionEntries source "credentials" (.map es) = .ok credentials)
    (hkeys : HasTextKeys settings) (hkeys' : HasTextKeys credentials) :
    ofData source (.map es) = do
      let settings ← (Settings.decode settings).toExcept (.stackFileRejected source)
      let own ← (Credentials.decode (ownEntries credentials)).toExcept (.stackFileRejected source)
      let declaration ← (Declaration.decode (declarationEntries credentials (.map es))).toExcept
        (.stackFileRejected source)
      return ⟨settings, own, declaration⟩ := by
  unfold ofData
  dsimp only
  rw [hsettings, hcredentials]
  change (named settings >>= fun _ => _) = _
  rw [hkeys.named_eq]
  change ((Settings.decode settings).toExcept _ >>= fun _ =>
    named (ownEntries credentials) >>= _) = _
  rw [hkeys'.ownEntries.named_eq]
  rfl

/-- The reading of a JSON value ends at such a role list, and nothing is reported. -/
theorem MeetsFlatRoles.ofData_eq {v : Json}
    (h : MeetsFlatRoles source (.ofJson v) settings credentials) :
    ofData source (.ofJson v) = .error .wrongType := by
  obtain ⟨es, hes⟩ := h.mapping
  obtain ⟨s, hs⟩ := h.settings_read
  obtain ⟨c, hc⟩ := h.credentials_read
  have hd := Declaration.decode_eq_notIterable.2 h.flat
  rw [hes, ofData_map (hes ▸ h.settings_found) (hes ▸ h.credentials_found)
    (hasTextKeys_of_sectionEntries h.settings_found)
    (hasTextKeys_of_sectionEntries h.credentials_found), hs, hc, ← hes, hd]
  rfl

/-- A JSON value is read, or it is reported, or such a role list is met. -/
theorem ofData_ofJson_cases (source : String) (v : Json) :
    (∃ f, ofData source (.ofJson v) = .ok f) ∨
      (∃ e, ofData source (.ofJson v) = .error e ∧ e.IsInvalidConfiguration source) ∨
        ∃ settings credentials, MeetsFlatRoles source (.ofJson v) settings credentials := by
  cases hv : Data.ofJson v with
  | scalar s => exact .inr (.inl ⟨_, rfl, .notMapping _⟩)
  | list xs => exact .inr (.inl ⟨_, rfl, .notMapping _⟩)
  | set ms => exact .inr (.inl ⟨_, rfl, .notMapping _⟩)
  | map es =>
    rcases sectionEntries_cases source "stack" (.map es) with ⟨settings, hsettings⟩ | hsettings
    case inr =>
      refine .inr (.inl ⟨_, ?_, .sectionNotMapping "stack"⟩)
      rw [ofData, hsettings]
      rfl
    rcases sectionEntries_cases source "credentials" (.map es) with
      ⟨credentials, hcredentials⟩ | hcredentials
    case inr =>
      refine .inr (.inl ⟨_, ?_, .sectionNotMapping "credentials"⟩)
      rw [ofData, hsettings, hcredentials]
      rfl
    rw [ofData_map hsettings hcredentials (hasTextKeys_of_sectionEntries (hv ▸ hsettings))
      (hasTextKeys_of_sectionEntries (hv ▸ hcredentials))]
    cases hs : Settings.decode settings with
    | notIterable => exact absurd hs (Settings.decode_ne_notIterable _)
    | rejected issues => exact .inr (.inl ⟨_, rfl, .rejected issues⟩)
    | ok s =>
      cases hc : Credentials.decode (ownEntries credentials) with
      | notIterable => exact absurd hc (Credentials.decode_ne_notIterable _)
      | rejected issues => exact .inr (.inl ⟨_, rfl, .rejected issues⟩)
      | ok c =>
        cases hd : Declaration.decode (declarationEntries credentials (.map es)) with
        | ok declaration => exact .inl ⟨_, rfl⟩
        | rejected issues => exact .inr (.inl ⟨_, rfl, .rejected issues⟩)
        | notIterable =>
          exact .inr (.inr ⟨settings, credentials, ⟨es, rfl⟩, hsettings, hcredentials, ⟨s, hs⟩,
            ⟨c, hc⟩, Declaration.decode_eq_notIterable.1 hd⟩)

end StackFile

namespace Project

open StackFile

/-- A result with an error of another kind neither gives a stack file nor says what is wrong. -/
theorem not_says_of_eq_wrongType {source : String} {r : Except Failure StackFile}
    (h : r = .error .wrongType) :
    ¬((∃ f, r = .ok f) ∨ ∃ e, r = .error e ∧ e.IsInvalidConfiguration source) := by
  subst h
  rintro (⟨f, hf⟩ | ⟨e, he, hinvalid⟩)
  · cases hf
  · cases he
    cases hinvalid

/-- Parsing a JSON value gives a stack file or reports what is wrong with it, unless a role list is
met that has no items; then, and only then, an error of another kind ends it. -/
theorem parse_reports_iff {σ : Type} (source : String) (v : Json) (t : Trail σ) :
    let r := ((parse source (.ofJson v)).exec t).1
    (((∃ f, r = .ok f) ∨ ∃ e, r = .error e ∧ e.IsInvalidConfiguration source) ↔
      ¬∃ settings credentials, MeetsFlatRoles source (.ofJson v) settings credentials) ∧
    (r = .error .wrongType ↔
      ∃ settings credentials, MeetsFlatRoles source (.ofJson v) settings credentials) := by
  intro r
  have hr : r = ofData source (.ofJson v) := fst_exec_parse source _ t
  have hcases : ((∃ f, r = .ok f) ∨ ∃ e, r = .error e ∧ e.IsInvalidConfiguration source) ∨
      ∃ settings credentials, MeetsFlatRoles source (.ofJson v) settings credentials :=
    hr ▸ or_assoc.2 (ofData_ofJson_cases source v)
  have hstops : (∃ settings credentials, MeetsFlatRoles source (.ofJson v) settings credentials) →
      r = .error .wrongType := fun ⟨_, _, h⟩ => hr.trans h.ofData_eq
  constructor
  · exact ⟨fun hsays hmeets => not_says_of_eq_wrongType (hstops hmeets) hsays, hcases.resolve_right⟩
  · exact ⟨fun h => hcases.resolve_left (not_says_of_eq_wrongType h), hstops⟩

/-- A stack file whose roles are a number. -/
def countedRoles : Json := .obj [
  ("stack", .obj [("deploymentId", .str "demo"), ("environment", .str "local"),
    ("keycloakRealm", .str "main")]),
  ("roles", .int 5)]

/-- Roles that are a number are no stack file, and nothing is reported of them. -/
theorem parse_countedRoles : let r := ((parse "<memory>" (.ofJson countedRoles)).exec
      (⟨(), []⟩ : Trail Unit)).1
    r = .error .wrongType ∧
      ¬((∃ f, r = .ok f) ∨ ∃ e, r = .error e ∧ e.IsInvalidConfiguration "<memory>") := by
  intro r
  have hmeets : MeetsFlatRoles "<memory>" (.ofJson countedRoles) (Data.ofMembers
      [("deploymentId", .str "demo"), ("environment", .str "local"),
        ("keycloakRealm", .str "main")]) [] := {
    mapping := ⟨_, rfl⟩
    settings_found := rfl
    credentials_found := rfl
    settings_read := ⟨{ deploymentId := "demo", environment := "local", realm := "main" },
      (toExcept_eq_ok (f := Failure.rejected)).1 (toOption_eq_some_iff.1 (by decide +kernel))⟩
    credentials_read := ⟨{}, rfl⟩
    flat := .explicit ⟨("roles", .scalar (.int 5)), rfl, rfl⟩ }
  have heq : r = .error .wrongType := (fst_exec_parse _ _ _).trans hmeets.ofData_eq
  exact ⟨heq, not_says_of_eq_wrongType heq⟩

end Project
end StackCompiler
