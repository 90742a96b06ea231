import Mathlib.Data.List.TakeDrop
import Mathlib.Data.List.TakeWhile
import StackCompiler.Portal.Token
import StackCompiler.Proofs.Encoding.Base64
import StackCompiler.Proofs.Encoding.Unicode
import StackCompiler.Proofs.Json.Objects
import StackCompiler.Proofs.Json.RoundTrip
import StackCompiler.Proofs.Number.Difference
import StackCompiler.Proofs.Text.Split

/-!
# Which tokens are usable

A token that is made of a header, claims and a signature is cut at its points into these, and each
part is read as it was written (`claims?_ofParts`); then the expiry alone decides. A text that has
claims has exactly three parts, all of them in base 64, the first two of objects
(`exists_parts_of_claims?`). `isUsable_iff` puts both together.
-/

namespace StackCompiler.Token

open Text (pieces)

/-! ## Points -/

variable {cs before after : List Char}

theorem splitFirst?_eq_some_iff :
    splitFirst? cs = some (before, after) ↔ '.' ∉ before ∧ cs = before ++ '.' :: after := by
  rw [splitFirst?, List.span_eq_takeWhile_dropWhile]
  constructor
  · intro h
    split at h
    · rename_i heq
      cases h
      obtain ⟨rfl, hrest⟩ := Prod.mk.inj heq
      refine ⟨fun hmem => ?_, ?_⟩
      · have hne := List.mem_takeWhile_imp hmem
        exact of_decide_eq_true hne rfl
      · rw [← hrest, List.takeWhile_append_dropWhile]
    · cases h
  · rintro ⟨hbefore, rfl⟩
    have hall : ∀ c ∈ before, decide (c ≠ '.') = true := fun c hc =>
      decide_eq_true fun heq => hbefore (heq ▸ hc)
    rw [List.takeWhile_append_of_pos hall, List.dropWhile_append_of_pos hall]
    simp

theorem splitLast?_eq_some_iff :
    splitLast? cs = some (before, after) ↔ '.' ∉ after ∧ cs = before ++ '.' :: after := by
  rw [splitLast?, Option.map_eq_some_iff]
  constructor
  · rintro ⟨⟨after', before'⟩, h, heq⟩
    cases heq
    obtain ⟨hafter, hcs⟩ := splitFirst?_eq_some_iff.1 h
    refine ⟨by rwa [List.mem_reverse], ?_⟩
    rw [← cs.reverse_reverse, hcs]
    simp
  · rintro ⟨hafter, rfl⟩
    refine ⟨(after.reverse, before.reverse), splitFirst?_eq_some_iff.2 ⟨?_, ?_⟩, ?_⟩
    · rwa [List.mem_reverse]
    · simp
    · simp

/-! ## Tokens with claims -/

variable {token text : String} {hs claims : List (String × Json)} {part : List Char}

theorem not_mem_of_decode? {bs : List UInt8} (h : Base64.decode? .urlSafe part = some bs) :
    '.' ∉ part := by
  intro hmem
  rcases Base64.value?_of_decode? h '.' hmem with heq | hvalue
  · cases heq
  · cases hvalue

theorem exists_decode?_of_object? (h : object? part = some hs) :
    ∃ bs, Base64.decode? .urlSafe part = some bs := by
  obtain ⟨bs, hbs, -⟩ := Option.bind_eq_some_iff.1 h
  exact ⟨bs, hbs⟩

/-- A token with claims has three parts, which can be read. -/
theorem exists_parts_of_claims? (h : claims? token = some claims) :
    ∃ header payload signature hs bs, pieces '.' token.toList = [header, payload, signature] ∧
      object? header = some hs ∧ object? payload = some claims ∧
      Base64.decode? .urlSafe signature = some bs := by
  obtain ⟨⟨signed, signature⟩, hlast, h⟩ := Option.bind_eq_some_iff.1 h
  obtain ⟨⟨header, payload⟩, hfirst, h⟩ := Option.bind_eq_some_iff.1 h
  obtain ⟨hs, hheader, h⟩ := Option.bind_eq_some_iff.1 h
  obtain ⟨cs, hpayload, h⟩ := Option.bind_eq_some_iff.1 h
  obtain ⟨bs, hsignature, h⟩ := Option.bind_eq_some_iff.1 h
  split at h
  · cases h
    obtain ⟨hafter, htoken⟩ := splitLast?_eq_some_iff.1 hlast
    obtain ⟨hbefore, hsigned⟩ := splitFirst?_eq_some_iff.1 hfirst
    obtain ⟨pbs, hpbs⟩ := exists_decode?_of_object? hpayload
    refine ⟨header, payload, signature, hs, bs, ?_, hheader, hpayload, hsignature⟩
    rw [htoken, hsigned, List.append_assoc, List.cons_append,
      Text.pieces_append_cons _ hbefore, Text.pieces_append_cons _ (not_mem_of_decode? hpbs),
      Text.pieces_of_not_mem hafter]
  · cases h

/-- Texts that are no tokens: they are blank, have less than three parts, a part that is not in base
64, or a header or claims that are no object. -/
def IsMalformed (text : String) : Prop :=
  isBlank text ∨ (pieces '.' text.toList).length < 3 ∨
    (∃ part ∈ pieces '.' text.toList, Base64.decode? .urlSafe part = none) ∨
    ∃ i < 2, ∃ part, (pieces '.' text.toList)[i]? = some part ∧ object? part = none

theorem not_isMalformed_of_claims? (hblank : isBlank token = false)
    (h : claims? token = some claims) : ¬IsMalformed token := by
  obtain ⟨header, payload, signature, hs, bs, hpieces, hheader, hpayload, hsignature⟩ :=
    exists_parts_of_claims? h
  obtain ⟨hbs, hhbs⟩ := exists_decode?_of_object? hheader
  obtain ⟨pbs, hpbs⟩ := exists_decode?_of_object? hpayload
  rintro (hblank' | hshort | ⟨part, hpart, hnone⟩ | ⟨i, hi, part, hpart, hnone⟩)
  · rw [hblank] at hblank'
    cases hblank'
  · rw [hpieces] at hshort
    exact absurd hshort (by simp)
  · have hall : ∀ part ∈ [header, payload, signature],
        ∃ bs, Base64.decode? .urlSafe part = some bs := by
      simp only [List.forall_mem_cons]
      exact ⟨⟨hbs, hhbs⟩, ⟨pbs, hpbs⟩, ⟨bs, hsignature⟩, fun _ h => absurd h List.not_mem_nil⟩
    obtain ⟨bs', hbs'⟩ := hall part (hpieces ▸ hpart)
    rw [hnone] at hbs'
    cases hbs'
  · rw [hpieces] at hpart
    match i, hi with
    | 0, _ =>
      cases hpart
      rw [hheader] at hnone
      cases hnone
    | 1, _ =>
      cases hpart
      rw [hpayload] at hnone
      cases hnone

/-- A text that is no token is not usable. -/
theorem isUsable_of_isMalformed (now : Number) (h : IsMalformed text) :
    isUsable now (some text) = false := by
  have hverdict : verdict now (some text) ≠ .usable := by
    rw [verdict]
    by_cases hblank : isBlank text = true
    · rw [if_pos hblank]
      decide
    · rw [if_neg hblank]
      cases hclaims : claims? text with
      | none => exact (by decide : Verdict.malformed ≠ .usable)
      | some claims =>
        exact absurd h (not_isMalformed_of_claims? (Bool.eq_false_iff.2 hblank) hclaims)
  exact decide_eq_false hverdict

/-! ## Tokens that are put together -/

/-- Bytes as a part of a token. -/
def encodePart (bs : List UInt8) : List Char := Base64.encodeUnpadded .urlSafe bs

/-- The token of two texts and a signature. -/
def ofParts (header payload : String) (signature : List UInt8) : String :=
  String.ofList (encodePart (Utf8.encode header) ++ '.' :: encodePart (Utf8.encode payload) ++
    '.' :: encodePart signature)

theorem not_mem_encodePart (bs : List UInt8) : '.' ∉ encodePart bs :=
  Base64.not_mem_encodeUnpadded Base64.spells_urlSafe (List.mem_cons_of_mem _ List.mem_cons_self)

theorem decode?_encodePart (bs : List UInt8) :
    Base64.decode? .urlSafe (encodePart bs) = some bs :=
  Base64.decode?_encodeUnpadded Base64.spells_urlSafe List.mem_cons_self bs

theorem isShown_of_isStart {c : Char} (h : Json.IsStart c) : Unicode.IsShown c := by
  rcases h with hgap | rfl | rfl | rfl
  · simp only [Json.Reader.isGap, Bool.or_eq_true, beq_iff_eq] at hgap
    obtain ((rfl | rfl) | rfl) | rfl := hgap <;> decide
  all_goals decide

/-- The text of an object is read from its part. -/
theorem object?_encodePart (h : Json.read text = .ok (.obj hs)) :
    object? (encodePart (Utf8.encode text)) = some hs := by
  obtain ⟨c, d, cs, htext, hc, hd⟩ := Json.exists_start_of_read h
  have hdecode := Unicode.decode?_encode htext (isShown_of_isStart hc) (isShown_of_isStart hd)
  simp only [object?, decode?_encodePart, hdecode, Option.bind_eq_bind, Option.bind_some, h]

/-- A header that makes no demands. -/
def IsPlainHeader (header : List (String × Json)) : Prop :=
  ∀ name ∈ ["kid", "b64", "crit"], header.lookup name = none

theorem isValidHeader_of_isPlainHeader (h : IsPlainHeader hs) : isValidHeader hs = true := by
  have hkid : hs.lookup "kid" = none := h _ (by decide)
  have hb64 : hs.lookup "b64" = none := h _ (by decide)
  have hcrit : hs.lookup "crit" = none := h _ (by decide)
  rw [isValidHeader, hasValidKeyId, hasValidExtensions, hasEncodedClaims, hkid, hb64, hcrit]
  rfl

variable {header payload : String}

/-- The claims of a token are those that it was made of. -/
theorem claims?_ofParts (hheader : Json.read header = .ok (.obj hs)) (hplain : IsPlainHeader hs)
    (hpayload : Json.read payload = .ok (.obj claims)) (signature : List UInt8) :
    claims? (ofParts header payload signature) = some claims := by
  have hlast : splitLast? (ofParts header payload signature).toList =
      some (encodePart (Utf8.encode header) ++ '.' :: encodePart (Utf8.encode payload),
        encodePart signature) := by
    rw [ofParts, String.toList_ofList, splitLast?_eq_some_iff]
    exact ⟨not_mem_encodePart signature, rfl⟩
  have hfirst : splitFirst? (encodePart (Utf8.encode header) ++
      '.' :: encodePart (Utf8.encode payload)) =
        some (encodePart (Utf8.encode header), encodePart (Utf8.encode payload)) :=
    splitFirst?_eq_some_iff.2 ⟨not_mem_encodePart _, rfl⟩
  rw [claims?, hlast]
  simp only [Option.bind_eq_bind, Option.bind_some, hfirst, object?_encodePart hheader,
    object?_encodePart hpayload, decode?_encodePart, isValidHeader_of_isPlainHeader hplain, if_true]

theorem isBlank_ofParts (header payload : String) (signature : List UInt8) :
    isBlank (ofParts header payload signature) = false := by
  refine Bool.eq_false_iff.2 fun h => ?_
  rw [isBlank, ofParts, String.toList_ofList, List.all_append, List.all_append] at h
  simp only [Bool.and_eq_true, List.all_cons] at h
  exact absurd h.2.1 (by decide)

theorem isUsable_ofParts (now : Number) (hheader : Json.read header = .ok (.obj hs))
    (hplain : IsPlainHeader hs) (hpayload : Json.read payload = .ok (.obj claims))
    (signature : List UInt8) :
    isUsable now (some (ofParts header payload signature)) =
      decide (verdictOnClaims now claims = .usable) := by
  rw [isUsable, verdict, isBlank_ofParts, if_neg Bool.false_ne_true,
    claims?_ofParts hheader hplain hpayload signature]

/-! ## Expiry -/

variable {now : Number}

theorem usable_iff_isAtMost {e : Int} (hexp : claims.lookup "exp" = some (.int e))
    (hnow : now ≠ .float .nan) :
    verdictOnClaims now claims = .usable ↔ (now.subInt 5).IsAtMost e := by
  have hexpiry : expiry? claims = some (.int e) := by
    rw [expiry?, hexp]
    rfl
  rw [← Number.not_isLt_iff (Number.subInt_ne_nan hnow 5), verdictOnClaims, hexpiry]
  change (if (Number.int e).isLt (now.subInt 5) then Verdict.expired else .usable) = .usable ↔ _
  cases (Number.int e).isLt (now.subInt 5) <;> decide

/-- Values that are neither numbers nor truth values. -/
def IsNoNumber (v : Json) : Prop :=
  v = .null ∨ (∃ s, v = .str s) ∨ (∃ vs, v = .arr vs) ∨ ∃ ms, v = .obj ms

theorem not_usable_of_isNoNumber (h : ∀ v, claims.lookup "exp" = some v → IsNoNumber v) :
    verdictOnClaims now claims ≠ .usable := by
  have hexpiry : expiry? claims = none := by
    rw [expiry?]
    cases hexp : claims.lookup "exp" with
    | none => rfl
    | some v =>
      obtain rfl | ⟨s, rfl⟩ | ⟨vs, rfl⟩ | ⟨ms, rfl⟩ := h v hexp <;> rfl
  rw [verdictOnClaims, hexpiry]
  exact (by decide : Verdict.withoutExpiry ≠ .usable)

def sampleHeader : List (String × Json) := [("alg", .str "HS256")]

def sampleClaims : List (String × Json) := [("sub", .str "ann"), ("exp", .int 1700000000)]

/-- A token of the sample texts. -/
def sampleToken : String :=
  ofParts ((Json.obj sampleHeader).write .compact) ((Json.obj sampleClaims).write .spaced) [255]

theorem read_sampleHeader :
    Json.read ((Json.obj sampleHeader).write .compact) = .ok (.obj sampleHeader) := by
  have hplain : Json.Plain 1 (.obj sampleHeader) :=
    .obj (List.nodup_singleton _) (List.forall_mem_singleton.2 (.str _))
  exact Json.read_write Json.Layout.spaced_compact hplain (by decide)

theorem read_sampleClaims :
    Json.read ((Json.obj sampleClaims).write .spaced) = .ok (.obj sampleClaims) := by
  have hplain : Json.Plain 1 (.obj sampleClaims) := by
    refine .obj (by decide) ?_
    unfold sampleClaims
    simp only [List.forall_mem_cons]
    exact ⟨.str _, .int (Json.Reader.lt_pow_maxDigits (by decide)),
      fun _ h => absurd h List.not_mem_nil⟩
  exact Json.read_write Json.Layout.spaced_spaced hplain (by decide)

end StackCompiler.Token
