import StackCompiler.Http.Message
import StackCompiler.Proofs.Encoding.Percent
import StackCompiler.Proofs.Text.Pattern
import StackCompiler.Proofs.Text.Split

/-!
# What requests carry

A value that is encoded into a query is read back from it (`parameters_encode`), and a cookie whose
value needs no quotation marks is read back from its header (`cookies_plain`). The address of a
redirect keeps what is encoded already (`encodeWith_isLocationChar_encode`).
-/

namespace StackCompiler.Http

open Percent

theorem splitEquals?_append {name : List Char} (value : List Char) (h : '=' ∉ name) :
    splitEquals? (name ++ '=' :: value) = some (name, value) := by
  have hname : ∀ c ∈ name, decide (c ≠ '=') = true := by
    intro c hc
    simpa using fun heq : c = '=' => h (heq ▸ hc)
  rw [splitEquals?, List.span_eq_takeWhile_dropWhile, List.takeWhile_append_of_pos hname,
    List.dropWhile_append_of_pos hname]
  simp

theorem not_mem_of_isUnreserved {cs : List Char} (h : ∀ c ∈ cs, isUnreserved c) {d : Char}
    (hd : isUnreserved d = false) : d ∉ cs := by
  intro hmem
  rw [h d hmem] at hd
  cases hd

/-! ## Queries -/

theorem formText_encode (s : String) : formText (encode s).toList = s := by
  have hplus : ∀ c ∈ (encode s).toList, (if c = '+' then ' ' else c) = c := fun c hc =>
    if_neg fun heq => not_mem_encode (by decide) (by decide) (heq ▸ hc)
  rw [formText, List.map_congr_left hplus, List.map_id', decodeChars_encode, String.ofList_toList]

theorem encode_eq_self {s : String} (h : ∀ c ∈ s.toList, isUnreserved c) : encode s = s :=
  encodeWith_eq_self h

/-- A parameter has no reserved characters but the equals sign and escapes. -/
theorem not_mem_parameter {name : String} (hname : ∀ c ∈ name.toList, isUnreserved c)
    (value : String) {c : Char} (hreserved : isUnreserved c = false) (hother : c ≠ '=' ∧ c ≠ '%') :
    c ∉ name.toList ++ '=' :: (encode value).toList := by
  rw [List.mem_append, List.mem_cons]
  rintro (h | h | h)
  · exact not_mem_of_isUnreserved hname hreserved h
  · exact hother.1 h
  · exact not_mem_encode hreserved hother.2 h

/-- A query of one parameter. -/
theorem parameters_encode {name value : String} (hname : ∀ c ∈ name.toList, isUnreserved c) :
    parameters (name ++ "=" ++ encode value) = [(name, value)] := by
  have hlist : (name ++ "=" ++ encode value).toList = name.toList ++ '=' :: (encode value).toList := by
    simp
  have hpieces : Text.pieces '&' (name.toList ++ '=' :: (encode value).toList) =
      [name.toList ++ '=' :: (encode value).toList] :=
    Text.pieces_of_not_mem (not_mem_parameter hname value (by decide) (by decide))
  have hname' : formText name.toList = name := by
    have h := formText_encode name
    rwa [encode_eq_self hname] at h
  rw [parameters, hlist, hpieces]
  have hsplit := splitEquals?_append (encode value).toList
    (not_mem_of_isUnreserved hname (d := '=') (by decide))
  simp [hsplit, hname', formText_encode]

/-! ## Cookies -/

theorem cookieValue_plain {cs : List Char} (h : '"' ∉ cs) : cookieValue cs = String.ofList cs := by
  refine if_neg fun hquoted => h ?_
  exact List.mem_of_mem_head? hquoted.2.1

theorem unbroken_of_isUnreserved {cs : List Char} (h : ∀ c ∈ cs, isUnreserved c) :
    Text.Unbroken cs := by
  intro c hc
  have hrange := toNat_of_isUnreserved (h c hc)
  simp only [Text.isBlank, Bool.or_eq_false_iff, Bool.and_eq_false_iff, decide_eq_false_iff_not,
    beq_eq_false_iff_ne]
  omega

/-- The cookies of a header with one cookie that needs no quotation marks. -/
theorem cookies_plain (name : String) {value : String} (hname : ∀ c ∈ name.toList, isUnreserved c)
    (hvalue : ∀ c ∈ value.toList, isUnreserved c) (hnonempty : name ≠ "") :
    (Text.pieces ';' (name ++ "=" ++ value).toList).filterMap cookie? = [(name, value)] := by
  have hlist : (name ++ "=" ++ value).toList = name.toList ++ '=' :: value.toList := by simp
  have hpieces : Text.pieces ';' (name.toList ++ '=' :: value.toList) =
      [name.toList ++ '=' :: value.toList] := by
    refine Text.pieces_of_not_mem ?_
    rw [List.mem_append, List.mem_cons]
    rintro (h | h | h)
    · exact not_mem_of_isUnreserved hname (by decide) h
    · exact absurd h (by decide)
    · exact not_mem_of_isUnreserved hvalue (by decide) h
  have hcookie : cookie? (name.toList ++ '=' :: value.toList) = some (name, value) := by
    rw [cookie?, splitEquals?_append _ (not_mem_of_isUnreserved hname (by decide))]
    simp [Text.strip_of_unbroken (unbroken_of_isUnreserved hname),
      Text.strip_of_unbroken (unbroken_of_isUnreserved hvalue), hnonempty,
      cookieValue_plain (not_mem_of_isUnreserved hvalue (by decide))]
  rw [hlist, hpieces, List.filterMap_cons, hcookie]
  rfl

/-! ## Redirects -/

theorem encodeWith_append (keep : Char → Bool) (s t : String) :
    encodeWith keep (s ++ t) = encodeWith keep s ++ encodeWith keep t := by
  simp [encodeWith]

/-- What is encoded already stays as it is in the address of a redirect. -/
theorem encodeWith_isLocationChar_encode (s : String) :
    encodeWith isLocationChar (encode s) = encode s := by
  refine encodeWith_eq_self fun c hc => ?_
  rcases mem_encode hc with h | rfl
  · rw [isLocationChar, h, Bool.true_or]
  · decide

end StackCompiler.Http
