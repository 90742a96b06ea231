import StackCompiler.Proofs.Artifacts.Acceptance
import StackCompiler.Proofs.Crypto.KeyDerivation
import StackCompiler.Proofs.Encoding.Base64
import StackCompiler.Proofs.Json.RoundTrip

/-!
# Stored credentials are verified

A verifier has the two texts of a credential and a password to check. It reads the salt, the number
of iterations and the key from the texts (`Credential.stored?`), derives a key from the password and
compares (`Credential.accepts`). Every credential that is made of a password says how it was derived
and accepts that password, and each user of a declaration has one (`stored_credentials_verify`).
-/

namespace StackCompiler

namespace Credential

/-! ## Verifiers -/

/-- What the texts of a credential say. -/
structure Stored where
  algorithm : String
  salt : List UInt8
  iterations : Int
  key : List UInt8
  deriving DecidableEq

/-- A text in an object. -/
def text? (v : Json) (name : String) : Option String :=
  match v.get? name with
  | some (.str s) => some s
  | _ => none

/-- Bytes in an object, in base 64. -/
def bytes? (v : Json) (name : String) : Option (List UInt8) :=
  (text? v name).bind fun s => Base64.decode? .standard s.toList

/-- An integer in an object. -/
def integer? (v : Json) (name : String) : Option Int :=
  match v.get? name with
  | some (.int n) => some n
  | _ => none

/-- What a verifier reads from the two texts. -/
def stored? (secretData credentialData : String) : Option Stored := do
  let secret ← (Json.read secretData).toOption
  let derivation ← (Json.read credentialData).toOption
  return {
    algorithm := ← text? derivation "algorithm"
    salt := ← bytes? secret "salt"
    iterations := ← integer? derivation "hashIterations"
    key := ← bytes? secret "value" }

/-- The decision of a verifier who has the two texts and is given a password. -/
def accepts (secretData credentialData password : String) : Bool :=
  match stored? secretData credentialData with
  | some s => s.algorithm == algorithm && 0 < s.iterations &&
      Pbkdf2.sum (Utf8.encode password) s.salt s.iterations.toNat == s.key
  | none => false

/-! ## Credentials of passwords -/

variable {d : Derivation} {key : List UInt8} {c : Credential} {password : String}

theorem read_secretJson (d : Derivation) (key : List UInt8) :
    Json.read ((secretJson d key).write .spaced) = .ok (secretJson d key) := by
  have hplain : Json.Plain 2 (secretJson d key) := by
    refine .obj (by simp) ?_
    simp only [List.forall_mem_cons]
    exact ⟨.str _, .str _, .obj List.nodup_nil fun m hm => absurd hm List.not_mem_nil,
      fun m hm => absurd hm List.not_mem_nil⟩
  exact Json.read_write Json.Layout.spaced_spaced hplain (by decide)

theorem FitsIterations.natAbs_lt {n : Int} (h : FitsIterations n) :
    n.natAbs < 10 ^ Text.maxDigits := by
  refine Json.Reader.lt_pow_maxDigits ?_
  obtain ⟨hpos, hfit⟩ := h
  have hpow : (Nat.pow 2 64 : Int) = 2 ^ 64 := by norm_num
  omega

theorem read_derivationJson (h : FitsIterations d.iterations) :
    Json.read ((derivationJson d).write .spaced) = .ok (derivationJson d) := by
  have hplain : Json.Plain 2 (derivationJson d) := by
    refine .obj (by simp) ?_
    simp only [List.forall_mem_cons]
    exact ⟨.int (FitsIterations.natAbs_lt h), .str _,
      .obj List.nodup_nil fun m hm => absurd hm List.not_mem_nil,
      fun m hm => absurd hm List.not_mem_nil⟩
  exact Json.read_write Json.Layout.spaced_spaced hplain (by decide)

theorem bytes?_encode {v : Json} {name : String} {bs : List UInt8}
    (h : v.get? name = some (.str (Base64.encode .standard bs))) : bytes? v name = some bs := by
  rw [bytes?, text?, h]
  exact Base64.decode?_encode Base64.spells_standard List.mem_cons_self bs

/-- The two texts say how the key was derived, and the key. -/
theorem stored?_write (h : FitsIterations d.iterations) (key : List UInt8) :
    stored? ((secretJson d key).write .spaced) ((derivationJson d).write .spaced) =
      some ⟨algorithm, d.salt, d.iterations, key⟩ := by
  have hsalt : bytes? (secretJson d key) "salt" = some d.salt := bytes?_encode rfl
  have hkey : bytes? (secretJson d key) "value" = some key := bytes?_encode rfl
  have halgorithm : text? (derivationJson d) "algorithm" = some algorithm := rfl
  have hiterations : integer? (derivationJson d) "hashIterations" = some d.iterations := rfl
  rw [stored?, read_secretJson, read_derivationJson h]
  simp only [Except.toOption, Option.bind_eq_bind, Option.bind_some, halgorithm, hsalt,
    hiterations, hkey]
  rfl

/-- The credential says how it was derived of the password, and a verifier who has nothing else
accepts the password. -/
structure Keeps (c : Credential) (d : Derivation) (password : String) : Prop where
  stored : stored? c.secretData c.credentialData = some {
    algorithm, salt := d.salt, iterations := d.iterations
    key := Pbkdf2.sum (Utf8.encode password) d.salt d.iterations.toNat }
  accepts : accepts c.secretData c.credentialData password

/-- Every password has a credential that keeps it. -/
theorem exists_keeps (d : Derivation) (h : FitsIterations d.iterations) (password : String) :
    ∃ c, ofPassword d password = .ok c ∧ c.Keeps d password := by
  have hpos : 0 < d.iterations.toNat := Int.pos_iff_toNat_pos.1 h.1
  have hstored := stored?_write h
    (Pbkdf2.sum (Utf8.encode password) d.salt d.iterations.toNat)
  rw [← Pbkdf2.derive_eq_sum hpos] at hstored
  refine ⟨_, ofPassword_eq_ok_iff.2 ⟨h, rfl⟩, ?_, ?_⟩
  · rw [hstored, Pbkdf2.derive_eq_sum hpos]
  · rw [accepts, hstored, Pbkdf2.derive_eq_sum hpos]
    simpa using h.1

end Credential

/-! ## Credentials of users -/

/-- A user whose password is absent or empty. -/
def UserEntry.LacksPassword (u : UserEntry) : Prop := u.password = none ∨ u.password = some ""

instance (u : UserEntry) : Decidable u.LacksPassword :=
  inferInstanceAs (Decidable (u.password = none ∨ u.password = some ""))

theorem UserEntry.credential_of_lacks {u : UserEntry} (h : u.LacksPassword)
    (d : Credential.Derivation) :
    u.credential d = .error (.missingSecret (.password u.username)) := by
  rw [credential]
  rcases h with h | h <;> rw [h] <;> rfl

theorem UserEntry.exists_keeps {u : UserEntry} (h : ¬u.LacksPassword) (d : Credential.Derivation)
    (hd : FitsIterations d.iterations) : ∃ password c, u.password = some password ∧
      u.credential d = .ok c ∧ c.Keeps d password := by
  obtain ⟨hnone, hempty⟩ := not_or.1 h
  obtain ⟨password, hpassword⟩ := Option.ne_none_iff_exists'.1 hnone
  obtain ⟨c, hc, hkeeps⟩ := Credential.exists_keeps d hd password
  refine ⟨password, c, hpassword, ?_, hkeeps⟩
  have hne : password ≠ "" := fun heq => hempty (heq ▸ hpassword)
  rw [credential_eq_ok_iff, hpassword, Option.getD_some]
  exact ⟨hne, hc⟩

namespace Declaration

/-- The credentials of the users, each under the user's name and made of the user's password. -/
structure KeptIn (d : Declaration) (hashing : Hashing) (credentials : List (String × Credential)) :
    Prop where
  usernames : credentials.map (·.1) = d.users.map (·.username)
  keeps : ∀ e ∈ d.users.zipIdx, ∃ password c, e.1.password = some password ∧
    credentials.lookup e.1.username = some c ∧ c.Keeps (hashing.derivation e.2) password

variable {d : Declaration} {hashing : Hashing} {credentials : List (String × Credential)}

theorem exists_mem_of_mem_zipIdx {e : UserEntry × Nat} (h : e ∈ d.users.zipIdx) :
    e.1 ∈ d.users := by
  have hmem := List.mem_map_of_mem (f := Prod.fst) h
  rwa [List.zipIdx_map_fst] at hmem

/-- The credentials of users fail for one who lacks a password, and for nothing else. -/
theorem exists_lacks_of_credentials {e : Failure} (hfits : FitsIterations hashing.iterations)
    (h : d.credentials hashing = .error e) :
    ∃ u ∈ d.users, u.LacksPassword ∧ e = .missingSecret (.password u.username) := by
  obtain ⟨⟨u, i⟩, hmem, he⟩ := exists_mem_of_mapM_eq_error h
  refine ⟨u, exists_mem_of_mem_zipIdx hmem, ?_⟩
  dsimp only at he
  by_cases hlacks : u.LacksPassword
  · rw [UserEntry.credential_of_lacks hlacks] at he
    cases he
    exact ⟨hlacks, rfl⟩
  · obtain ⟨password, c, -, hc, -⟩ := UserEntry.exists_keeps hlacks (hashing.derivation i) hfits
    rw [hc] at he
    cases he

theorem not_lacks_of_credentials (h : d.credentials hashing = .ok credentials) :
    ∀ u ∈ d.users, ¬u.LacksPassword := by
  intro u hu hlacks
  rw [← List.zipIdx_map_fst 0 d.users] at hu
  obtain ⟨⟨u, i⟩, hmem, rfl⟩ := List.mem_map.1 hu
  obtain ⟨c, -, hc⟩ := exists_mem_of_mapM_eq_ok h _ hmem
  dsimp only at hc hlacks
  rw [UserEntry.credential_of_lacks hlacks] at hc
  cases hc

theorem keptIn_of_credentials (hfits : FitsIterations hashing.iterations)
    (hnodup : (d.users.map (·.username)).Nodup) (h : d.credentials hashing = .ok credentials) :
    d.KeptIn hashing credentials where
  usernames := usernames_of_credentials h
  keeps := by
    rintro ⟨u, i⟩ hmem
    have hlacks := not_lacks_of_credentials h u (exists_mem_of_mem_zipIdx hmem)
    obtain ⟨password, c, hpassword, hc, hkeeps⟩ :=
      UserEntry.exists_keeps hlacks (hashing.derivation i) hfits
    obtain ⟨e, he, hitem⟩ := exists_mem_of_mapM_eq_ok h _ hmem
    dsimp only at hitem
    rw [hc] at hitem
    cases hitem
    rw [← usernames_of_credentials h] at hnodup
    exact ⟨password, c, hpassword, lookup_eq_some_of_nodup hnodup he, hkeeps⟩

end Declaration

/-- With a number of iterations that fits a word, every password has a credential that keeps it,
with a key of 32 bytes. The users of a declaration have one each, unless one of them has no password;
then that is the failure. -/
theorem stored_credentials_verify {iterations : Int} (hfits : FitsIterations iterations) :
    (∀ (password : String) (salt : List UInt8),
      ∃ c, Credential.ofPassword ⟨salt, iterations⟩ password = .ok c ∧
        c.Keeps ⟨salt, iterations⟩ password ∧
        (Pbkdf2.sum (Utf8.encode password) salt iterations.toNat).length = 32) ∧
    ∀ (salts : Nat → List UInt8) (d : Declaration), d.WellFormed →
      ((∃ e, d.credentials ⟨salts, iterations⟩ = .error e) ↔ ∃ u ∈ d.users, u.LacksPassword) ∧
      (∀ e, d.credentials ⟨salts, iterations⟩ = .error e →
        ∃ u ∈ d.users, u.LacksPassword ∧ e = .missingSecret (.password u.username)) ∧
      ∀ credentials, d.credentials ⟨salts, iterations⟩ = .ok credentials →
        d.KeptIn ⟨salts, iterations⟩ credentials := by
  refine ⟨fun password salt => ?_, fun salts d hd => ⟨⟨?_, ?_⟩, ?_, ?_⟩⟩
  · obtain ⟨c, hc, hkeeps⟩ := Credential.exists_keeps ⟨salt, iterations⟩ hfits password
    exact ⟨c, hc, hkeeps, Pbkdf2.length_sum _ _ _⟩
  · rintro ⟨e, he⟩
    obtain ⟨u, hu, hlacks, -⟩ := Declaration.exists_lacks_of_credentials hfits he
    exact ⟨u, hu, hlacks⟩
  · rintro ⟨u, hu, hlacks⟩
    cases h : d.credentials ⟨salts, iterations⟩ with
    | error e => exact ⟨e, rfl⟩
    | ok credentials => exact absurd hlacks (Declaration.not_lacks_of_credentials h u hu)
  · exact fun e he => Declaration.exists_lacks_of_credentials hfits he
  · exact fun credentials => Declaration.keptIn_of_credentials hfits hd.usernames_nodup

/-- Two users with passwords. -/
def Declaration.team : Declaration where
  users := [
    { username := "ann", password := some "winter" },
    { username := "bob", password := some "sömmer" }]

theorem stored_credentials_verify_team :
    (∃ c, Credential.ofPassword ⟨[0, 255], 2⟩ "" = .ok c ∧ c.Keeps ⟨[0, 255], 2⟩ "") ∧
      ∃ credentials, Declaration.team.credentials ⟨fun i => [UInt8.ofNat i], 2⟩ = .ok credentials ∧
        Declaration.team.KeptIn ⟨fun i => [UInt8.ofNat i], 2⟩ credentials := by
  have hfits : FitsIterations 2 := by
    unfold FitsIterations
    decide
  obtain ⟨hpassword, husers⟩ := stored_credentials_verify hfits
  obtain ⟨c, hc, hkeeps, -⟩ := hpassword "" [0, 255]
  obtain ⟨hlacks, -, hkept⟩ := husers (fun i => [UInt8.ofNat i]) .team ⟨by decide, by decide⟩
  refine ⟨⟨c, hc, hkeeps⟩, ?_⟩
  cases h : Declaration.team.credentials ⟨fun i => [UInt8.ofNat i], 2⟩ with
  | error e =>
    have hnone : ∀ u ∈ Declaration.team.users, ¬u.LacksPassword := by decide
    obtain ⟨u, hu, h⟩ := hlacks.1 ⟨e, h⟩
    exact absurd h (hnone u hu)
  | ok credentials => exact ⟨credentials, rfl, hkept credentials h⟩

/-- Keys are derived with as many iterations as a word of 64 bits can hold, and not with more. -/
theorem no_credential_beyond_word : ¬∀ (password : String) (salt : List UInt8) (iterations : Nat),
    1 ≤ iterations → ∃ c, Credential.ofPassword ⟨salt, iterations⟩ password = .ok c := by
  intro h
  obtain ⟨c, hc⟩ := h "x" [0] 18446744073709551616 (by decide)
  rw [Credential.ofPassword, if_pos (by decide)] at hc
  cases hc

end StackCompiler
