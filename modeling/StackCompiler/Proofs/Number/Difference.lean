import Mathlib.Algebra.Order.Field.Power
import Mathlib.Data.Rat.Cast.Order
import Mathlib.Tactic.FieldSimp
import Mathlib.Tactic.Linarith
import Mathlib.Tactic.Positivity
import Mathlib.Tactic.Ring
import StackCompiler.Number.Basic

/-!
# Comparing a difference with an integer

Numbers are compared by their exact values (`Number.not_isLt_iff`). A few seconds can be taken from
a time without rounding (`Number.isAtMost_subInt_iff`): the difference is a multiple of the same
power of two, and its mantissa still fits.
-/

namespace StackCompiler

namespace Binary64

/-! ## Values -/

/-- The value of a finite number. -/
def valueOf (negative : Bool) (mantissa : Nat) (exponent : Int) : ℚ :=
  (if negative then -1 else 1) * (mantissa * 2 ^ exponent)

variable {num den n d m : Nat} {e shift : Int} {negative : Bool}

theorem scale_eq (hden : 0 < den) (h : scale num den shift = (n, d)) :
    0 < d ∧ (n : ℚ) / d = num / den * 2 ^ shift := by
  unfold scale at h
  split at h
  · rename_i hshift
    cases h
    obtain ⟨k, rfl⟩ := Int.eq_ofNat_of_zero_le hshift
    refine ⟨hden, ?_⟩
    simp only [Int.toNat_natCast, Nat.pow_eq, Nat.cast_mul, Nat.cast_pow, Nat.cast_ofNat,
      zpow_natCast]
    ring
  · rename_i hshift
    cases h
    obtain ⟨k, hk⟩ := Int.eq_ofNat_of_zero_le (by omega : 0 ≤ -shift)
    obtain rfl : shift = -(k : Int) := by omega
    refine ⟨Nat.mul_pos hden (Nat.pow_pos (by decide)), ?_⟩
    simp only [neg_neg, Int.toNat_natCast, Nat.pow_eq, Nat.cast_mul, Nat.cast_pow, Nat.cast_ofNat,
      zpow_neg, zpow_natCast]
    field_simp

theorem toRatio?_finite {r : Int} (h : (finite negative m e).toRatio? = some (r, d)) :
    0 < d ∧ (r : ℚ) / d = valueOf negative m e := by
  rcases hscale : scale m 1 e with ⟨k, d'⟩
  rw [toRatio?, hscale] at h
  cases h
  obtain ⟨hd, hvalue⟩ := scale_eq (by decide) hscale
  rw [Nat.cast_one, div_one] at hvalue
  refine ⟨hd, ?_⟩
  rw [valueOf, ← hvalue]
  cases negative
  · simp
  · simp [neg_div]

/-! ## Exact results -/

theorem roundDiv_mul {q : Nat} (hd : 0 < d) : roundDiv (q * d) d = q := by
  rw [roundDiv, Nat.mul_mod_left, Nat.mul_div_cancel _ hd]
  exact if_pos hd

theorem ofRatio_ne_nan (negative : Bool) (num den : Nat) : ofRatio negative num den ≠ nan := by
  unfold ofRatio
  dsimp only
  split_ifs <;> exact nofun

theorem log2Ratio_le (num den : Nat) :
    log2Ratio num den ≤ (Nat.log2 num : Int) - Nat.log2 den := by
  unfold log2Ratio
  dsimp only
  split
  · omega
  · exact le_rfl

/-- A ratio with a small numerator, over a power of two, is a number. -/
theorem exists_ofRatio_eq {j : Nat} (hnum : num < 2 ^ 53) (hj : j ≤ 1074) :
    ∃ m e, ofRatio negative num (2 ^ j) = .finite negative m e ∧
      (m * 2 ^ e : ℚ) = num / 2 ^ j := by
  by_cases hzero : num = 0
  · subst hzero
    exact ⟨0, -1074, if_pos rfl, by simp⟩
  · have hlog : Nat.log2 num ≤ 52 := Nat.lt_succ_iff.1 ((Nat.log2_lt hzero).2 hnum)
    have hratio := log2Ratio_le num (2 ^ j)
    rw [Nat.log2_two_pow] at hratio
    -- The grid of the result is at least as fine as that of the ratio.
    generalize he : max (log2Ratio num (2 ^ j) - 52) (-1074) = e
    obtain ⟨k, hk⟩ := Int.eq_ofNat_of_zero_le (by omega : 0 ≤ -e)
    have hjk : j ≤ k := by omega
    obtain rfl : e = -(k : Int) := by omega
    have hscale : scale num (2 ^ j) (-(-(k : Int))) = (num * 2 ^ (k - j) * 2 ^ j, 2 ^ j) := by
      rw [neg_neg, scale, if_pos (Int.natCast_nonneg k), Int.toNat_natCast, Nat.pow_eq, mul_assoc,
        ← Nat.pow_add, Nat.sub_add_cancel hjk]
    have hvalue : ((num * 2 ^ (k - j) : Nat) * 2 ^ (-(k : Int)) : ℚ) = num / 2 ^ j := by
      have hpow : (2 : ℚ) ^ k = 2 ^ (k - j) * 2 ^ j := by
        rw [← pow_add, Nat.sub_add_cancel hjk]
      rw [zpow_neg, zpow_natCast, hpow]
      push_cast
      field_simp
    rw [ofRatio, if_neg hzero]
    dsimp only
    rw [he, hscale]
    dsimp only
    rw [roundDiv_mul (Nat.pow_pos (by decide))]
    by_cases hcarry : num * 2 ^ (k - j) = Nat.pow 2 53
    · rw [if_pos hcarry, if_neg (by omega)]
      refine ⟨_, _, rfl, ?_⟩
      rw [← hvalue, hcarry, zpow_add₀ (by norm_num)]
      norm_num
      ring
    · rw [if_neg hcarry, if_neg (by omega)]
      exact ⟨_, _, rfl, hvalue⟩

theorem toRatio?_of_grid (m j : Nat) :
    (finite false m (-(j : Int))).toRatio? = some ((m : Int), 2 ^ j) := by
  have hscale : scale m 1 (-(j : Int)) = (m, 2 ^ j) := by
    unfold scale
    split
    · obtain rfl : j = 0 := by omega
      simp
    · simp
  rw [toRatio?, hscale]
  rfl

/-- The difference of a small number and an integer on the grid of the number is not rounded. -/
theorem exists_subInt_eq {j : Nat} {k : Int} (hj : j ≤ 1074)
    (hsmall : ((m : Int) - k * 2 ^ j).natAbs < 2 ^ 53) :
    ∃ negative m' e', (finite false m (-(j : Int))).subInt k = finite negative m' e' ∧
      valueOf negative m' e' = m * 2 ^ (-(j : Int)) - k := by
  rw [subInt, toRatio?_of_grid]
  dsimp only
  rw [Nat.cast_pow, Nat.cast_ofNat]
  generalize hr : (m : Int) - k * 2 ^ j = r at hsmall
  obtain ⟨m', e', hround, hvalue⟩ := @exists_ofRatio_eq _ (decide (r < 0)) j hsmall hj
  refine ⟨_, m', e', hround, ?_⟩
  have hsign : (if r < 0 then -1 else 1) * (r.natAbs : ℚ) = r := by
    split
    · rename_i hneg
      have hcast : ((r.natAbs : Int) : ℚ) = ((-r : Int) : ℚ) := by
        rw [Int.ofNat_natAbs_of_nonpos hneg.le]
      rw [← Int.cast_natCast, hcast, Int.cast_neg, neg_one_mul, neg_neg]
    · rename_i hpos
      have hcast : ((r.natAbs : Int) : ℚ) = (r : ℚ) := by
        rw [Int.natAbs_of_nonneg (not_lt.1 hpos)]
      rw [← Int.cast_natCast, hcast, one_mul]
  have hpow : (2 : ℚ) ^ j ≠ 0 := by positivity
  rw [valueOf, hvalue, zpow_neg, zpow_natCast]
  simp only [decide_eq_true_eq]
  rw [← mul_div_assoc, hsign, ← hr]
  push_cast
  field_simp

end Binary64

namespace Number

open Binary64 (valueOf)

theorem subInt_ne_nan {x : Number} (hx : x ≠ float .nan) (k : Int) :
    x.subInt k ≠ float .nan := by
  cases x with
  | int m => exact nofun
  | float x =>
    cases x with
    | nan => exact absurd rfl hx
    | infinite negative => exact nofun
    | finite negative m e =>
      obtain ⟨⟨r, d⟩, hratio⟩ : ∃ p, (Binary64.finite negative m e).toRatio? = some p := ⟨_, rfl⟩
      rw [subInt, Binary64.subInt, hratio]
      exact fun h => Binary64.ofRatio_ne_nan _ _ _ (float.inj h)

/-- The number is not above an integer. -/
def IsAtMost : Number → Int → Prop
  | int m, n => m ≤ n
  | float (.finite negative m e), n => valueOf negative m e ≤ n
  | float (.infinite negative), _ => negative
  | float .nan, _ => False

/-- Comparing is exact. -/
theorem not_isLt_iff {x : Number} (hx : x ≠ float .nan) {n : Int} :
    (int n).isLt x = false ↔ x.IsAtMost n := by
  cases x with
  | int m =>
    change decide (n < m) = false ↔ m ≤ n
    rw [decide_eq_false_iff_not, not_lt]
  | float x =>
    cases x with
    | nan => exact absurd rfl hx
    | infinite negative => cases negative <;> simp [isLt, Binary64.ratioIsLt, IsAtMost]
    | finite negative m e =>
      obtain ⟨⟨r, d⟩, hratio⟩ : ∃ p, (Binary64.finite negative m e).toRatio? = some p := ⟨_, rfl⟩
      obtain ⟨hd, hvalue⟩ := Binary64.toRatio?_finite hratio
      have hpos : (0 : ℚ) < d := by exact_mod_cast hd
      rw [isLt, Binary64.ratioIsLt, hratio]
      change decide (n * (d : Int) < r * (1 : Nat)) = false ↔ valueOf negative m e ≤ n
      rw [decide_eq_false_iff_not, not_lt, Nat.cast_one, mul_one, ← hvalue, div_le_iff₀ hpos]
      exact_mod_cast Iff.rfl

/-- The number is a time in seconds of which a few seconds can be taken exactly: an integer, or a
binary number that is not too small and not beyond the integers that all have a number. -/
def IsTime : Number → ℚ → Prop
  | int n, t => t = n
  | float (.finite false m e), t =>
    m < 2 ^ 53 ∧ -1074 ≤ e ∧ e ≤ 0 ∧ 5 / 2 ≤ t ∧ t = m * 2 ^ e
  | _, _ => False

theorem isAtMost_subInt_iff {x : Number} {t : ℚ} (h : x.IsTime t) {n : Int} :
    (x.subInt 5).IsAtMost n ↔ t - 5 ≤ n := by
  cases x with
  | int m =>
    obtain rfl : t = m := h
    change m - 5 ≤ n ↔ _
    exact_mod_cast Iff.rfl
  | float x =>
    cases x with
    | nan => exact h.elim
    | infinite negative => exact h.elim
    | finite negative m e =>
      cases negative with
      | true => exact h.elim
      | false =>
        obtain ⟨hm, hleast, he, hsmall, rfl⟩ := h
        obtain ⟨j, hj⟩ := Int.eq_ofNat_of_zero_le (by omega : 0 ≤ -e)
        obtain rfl : e = -(j : Int) := by omega
        have hgrid : 5 * 2 ^ j ≤ 2 * m := by
          rw [zpow_neg, zpow_natCast, ← div_eq_mul_inv,
            div_le_div_iff₀ (by norm_num) (by positivity)]
            at hsmall
          rw [mul_comm 2 m]
          exact_mod_cast hsmall
        have hfits : ((m : Int) - 5 * 2 ^ j).natAbs < 2 ^ 53 := by
          have hcast : ((2 ^ j : Nat) : Int) = 2 ^ j := by push_cast; rfl
          omega
        obtain ⟨negative, m', e', hsub, hvalue⟩ := Binary64.exists_subInt_eq (by omega) hfits
        rw [subInt, hsub, IsAtMost, hvalue]
        rfl

end Number
end StackCompiler
