import Mathlib.Data.List.Basic
import StackCompiler.Json.Printer
import StackCompiler.Json.Reader

/-!
# Quoted texts are read back

Every text that is written in quotes is read as it was (`string_quoted`): a character is written as
itself, as an escape of one letter, or as one or two escapes of UTF-16 units, and each of these is
read as that character (`string_escape`).
-/

namespace StackCompiler.Json

open Printer (escape unitEscape hexDigit)

namespace Reader

variable {n : Nat} {c : Char} {cs : List Char} {acc : List Char} {fuel : Nat}

/-! ## UTF-16 units -/

theorem hexValue?_hexDigit (h : n < 16) : hexValue? (hexDigit n) = some n := by
  have hall : ∀ n < 16, hexValue? (hexDigit n) = some n := by decide
  exact hall n h

/-- The four digits of a unit make up the unit. -/
theorem hex4?_unitEscape (h : n < 65536) (cs : List Char) :
    hex4? ((unitEscape n).drop 2 ++ cs) = some (n, cs) := by
  have hdigit : ∀ m, hexValue? (hexDigit (m % 16)) = some (m % 16) :=
    fun m => hexValue?_hexDigit (Nat.mod_lt _ (by decide))
  have hsum : n / 4096 % 16 * 4096 + n / 256 % 16 * 256 + n / 16 % 16 * 16 + n % 16 = n := by
    omega
  simp [unitEscape, hex4?, hdigit, hsum]

theorem toNat_cases (c : Char) : c.toNat < 0xD800 ∨ 0xE000 ≤ c.toNat ∧ c.toNat < 0x110000 := by
  rcases c.valid with h | ⟨hlow, hhigh⟩
  · exact .inl h
  · exact .inr ⟨Nat.lt_of_succ_le hlow, hhigh⟩

theorem char_toNat (c : Char) : Unicode.char c.toNat = c := by
  have hcases := toNat_cases c
  rw [Unicode.char, if_neg (by omega), Char.ofNat_toNat]

/-- The character that two escapes make together. -/
def joined? (n : Nat) (cs : List Char) : Option (Char × List Char) :=
  match cs with
  | '\\' :: 'u' :: rest => do
    let (m, rest) ← hex4? rest
    return (← Unicode.ofSurrogates? n m, rest)
  | _ => none

theorem unicodeEscape?_of_hex4? {rest : List Char} (h : hex4? cs = some (n, rest)) :
    unicodeEscape? cs = some ((joined? n rest).getD (Unicode.char n, rest)) := by
  rw [unicodeEscape?, h]
  rfl

theorem joined?_of_alone (h : ∀ m, Unicode.ofSurrogates? n m = none) : joined? n cs = none := by
  unfold joined?
  split
  · rename_i rest
    cases hex4? rest with
    | none => rfl
    | some found =>
      obtain ⟨m, rest⟩ := found
      change (Unicode.ofSurrogates? n m >>= fun _ => _) = none
      rw [h]
      rfl
  · rfl

/-- A unit that is a character of its own. -/
theorem unicodeEscape?_unit (h : c.toNat < 0x10000) (cs : List Char) :
    unicodeEscape? ((unitEscape c.toNat).drop 2 ++ cs) = some (c, cs) := by
  have hcases := toNat_cases c
  have halone : ∀ m, Unicode.ofSurrogates? c.toNat m = none := fun m => by
    rw [Unicode.ofSurrogates?, if_neg (by omega)]
  rw [unicodeEscape?_of_hex4? (hex4?_unitEscape h cs), joined?_of_alone halone, char_toNat]
  rfl

theorem unitEscape_append (n : Nat) (cs : List Char) :
    unitEscape n ++ cs = '\\' :: 'u' :: ((unitEscape n).drop 2 ++ cs) := rfl

theorem joined?_of_hex4? {m : Nat} {rest : List Char} (h : hex4? cs = some (m, rest))
    (hpair : Unicode.ofSurrogates? n m = some c) :
    joined? n ('\\' :: 'u' :: cs) = some (c, rest) := by
  change (hex4? cs >>= fun found => Unicode.ofSurrogates? n found.1 >>= fun c =>
    some (c, found.2)) = _
  rw [h]
  change (Unicode.ofSurrogates? n m >>= fun c => some (c, rest)) = _
  rw [hpair]
  rfl

/-- Two units that make a character together. -/
theorem unicodeEscape?_pair (h : 0x10000 ≤ c.toNat) (cs : List Char) :
    unicodeEscape? ((unitEscape (0xD800 + (c.toNat - 0x10000) / 1024)).drop 2 ++
      (unitEscape (0xDC00 + (c.toNat - 0x10000) % 1024) ++ cs)) = some (c, cs) := by
  have hcases := toNat_cases c
  have hhigh : 0xD800 + (c.toNat - 0x10000) / 1024 < 65536 := by omega
  have hlow : 0xDC00 + (c.toNat - 0x10000) % 1024 < 65536 := by omega
  have hsurrogates : Unicode.ofSurrogates? (0xD800 + (c.toNat - 0x10000) / 1024)
      (0xDC00 + (c.toNat - 0x10000) % 1024) = some c := by
    have hsum : 0x10000 + (0xD800 + (c.toNat - 0x10000) / 1024 - 0xD800) * 1024 +
        (0xDC00 + (c.toNat - 0x10000) % 1024 - 0xDC00) = c.toNat := by omega
    rw [Unicode.ofSurrogates?, if_pos (by omega), hsum, Char.ofNat_toNat]
  rw [unicodeEscape?_of_hex4? (hex4?_unitEscape hhigh _), unitEscape_append,
    joined?_of_hex4? (hex4?_unitEscape hlow cs) hsurrogates, Option.getD_some]

/-! ## Quoted texts -/

theorem string_plain (hquote : c ≠ '"') (hslash : c ≠ '\\') (hlow : 32 ≤ c.toNat) :
    string acc (fuel + 1) (c :: cs) = string (c :: acc) fuel cs := by
  rw [string]
  · exact if_neg (Nat.not_lt.2 hlow)
  · exact hquote
  · exact fun _ h _ => hslash h
  · exact fun _ _ h _ => hslash h

theorem string_unicode {rest : List Char} (h : unicodeEscape? cs = some (c, rest)) :
    string acc (fuel + 1) ('\\' :: 'u' :: cs) = string (c :: acc) fuel rest := by
  rw [string, h]

/-- A character that was written is read as it was. -/
theorem string_escape (c : Char) (cs acc : List Char) (fuel : Nat) :
    string acc (fuel + 1) (escape c ++ cs) = string (c :: acc) fuel cs := by
  unfold Printer.escape
  split_ifs with hquote hslash hn hr ht hb hf hplain hunit
  · rw [hquote]
    rfl
  · rw [hslash]
    rfl
  · rw [hn]
    rfl
  · rw [hr]
    rfl
  · rw [ht]
    rfl
  · rw [hb]
    rfl
  · rw [hf]
    rfl
  · exact string_plain hquote hslash hplain.1
  · rw [unitEscape_append]
    exact string_unicode (unicodeEscape?_unit hunit cs)
  · dsimp only
    rw [List.append_assoc, unitEscape_append]
    exact string_unicode (unicodeEscape?_pair (Nat.le_of_not_lt hunit) cs)

theorem escape_ne_nil (c : Char) : escape c ≠ [] := by
  unfold Printer.escape
  split_ifs <;> exact List.cons_ne_nil _ _

/-- A text in quotes is read as it was written. -/
theorem string_quoted : ∀ (s acc cs : List Char) {fuel : Nat},
    (s.flatMap escape).length < fuel →
      string acc fuel (s.flatMap escape ++ '"' :: cs) = .ok (String.ofList (acc.reverse ++ s), cs)
  | [], acc, cs, fuel + 1, _ => by
    rw [List.append_nil]
    rfl
  | c :: s, acc, cs, fuel + 1, hfuel => by
    have hpos : 0 < (escape c).length := List.length_pos_iff.2 (escape_ne_nil c)
    rw [List.flatMap_cons, List.length_append] at hfuel
    rw [List.flatMap_cons, List.append_assoc, string_escape, string_quoted s (c :: acc) cs (by omega),
      List.reverse_cons, List.append_assoc]
    rfl

end Reader

end StackCompiler.Json
