import Remedy.Number.Binary64
import Mathlib.Data.Int.Log
import Mathlib.Data.Rat.Cast.Order
import Mathlib.Tactic

/-!
# Rounding fractions to doubles

A fraction is rounded by whole-number arithmetic on a numerator and a denominator. The result
depends on the value of the fraction only, and a fraction that is the value of a double is rounded to
this double.

Main results:

* `exponentFor_eq`: the exponent is found from the binary logarithm of the fraction.
* `ofRatio_congr`: equal fractions are rounded to the same double.
* `ofRatio_of_value`: the value of a double is rounded to it.
-/

namespace Remedy.Binary64

/-! ## Quotients -/

theorem roundDiv_mul_right (n d : Nat) {k : Nat} (hk : 0 < k) :
    roundDiv (n * k) (d * k) = roundDiv n d := by
  have hlt : ∀ a b : Nat, 2 * (a * k) < b * k ↔ 2 * a < b := by
    intro a b
    rw [← mul_assoc, Nat.mul_lt_mul_right hk]
  have hgt : ∀ a b : Nat, b * k < 2 * (a * k) ↔ b < 2 * a := by
    intro a b
    rw [← mul_assoc, Nat.mul_lt_mul_right hk]
  unfold roundDiv
  simp only [Nat.mul_div_mul_right _ _ hk, Nat.mul_mod_mul_right, hlt, hgt]

/-- Equal fractions have the same nearest whole number. -/
theorem roundDiv_congr {n d n' d' : Nat} (hd : 0 < d) (hd' : 0 < d') (h : n * d' = n' * d) :
    roundDiv n d = roundDiv n' d' := by
  calc roundDiv n d = roundDiv (n * d') (d * d') := (roundDiv_mul_right n d hd').symm
    _ = roundDiv (n' * d) (d' * d) := by rw [h, mul_comm d d']
    _ = roundDiv n' d' := roundDiv_mul_right n' d' hd

theorem roundDiv_mul_self (m : Nat) {d : Nat} (hd : 0 < d) : roundDiv (m * d) d = m := by
  unfold roundDiv
  simp [Nat.mul_div_cancel m hd, hd]

/-! ## Powers of two -/

theorem two_zpow_of_neg {e : Int} (he : e < 0) : (2 : ℚ) ^ e = 1 / (Nat.pow 2 e.natAbs : Nat) := by
  obtain ⟨k, rfl⟩ : ∃ k : Nat, e = -(k : Int) := ⟨e.natAbs, by omega⟩
  simp [zpow_neg]

theorem two_zpow_of_nonneg {e : Int} (he : ¬ e < 0) : (2 : ℚ) ^ e = (Nat.pow 2 e.natAbs : Nat) := by
  obtain ⟨k, rfl⟩ : ∃ k : Nat, e = (k : Int) := ⟨e.natAbs, by omega⟩
  simp

/-- The exponent is large enough for 53 bits. -/
theorem fits_iff {n d : Nat} (hd : 0 < d) (g : Int) :
    (if g < 0 then d * Nat.pow 2 52 ≤ n * Nat.pow 2 g.natAbs
      else d * Nat.pow 2 g.natAbs * Nat.pow 2 52 ≤ n) ↔ (2 : ℚ) ^ (g + 52) ≤ n / d := by
  have hd' : (0 : ℚ) < d := by exact_mod_cast hd
  have hsplit : (2 : ℚ) ^ (g + 52) = 2 ^ g * (Nat.pow 2 52 : Nat) := by
    rw [zpow_add₀ (by norm_num)]
    norm_num
  rw [hsplit, le_div_iff₀ hd']
  by_cases hg : g < 0
  · have hpow : (0 : ℚ) < (Nat.pow 2 g.natAbs : Nat) := by
      exact_mod_cast Nat.pow_pos (show 0 < 2 by norm_num)
    rw [if_pos hg, two_zpow_of_neg hg, one_div, mul_assoc, inv_mul_le_iff₀ hpow]
    rw [← Nat.cast_mul, ← Nat.cast_mul, Nat.cast_le]
    rw [mul_comm d, mul_comm n]
  · rw [if_neg hg, two_zpow_of_nonneg hg, ← Nat.cast_mul, ← Nat.cast_mul, Nat.cast_le]
    rw [mul_comm d, mul_right_comm]

/-- A natural number lies between the powers of two around its binary logarithm. -/
theorem log2_bounds {n : Nat} (hn : n ≠ 0) :
    (2 : ℚ) ^ (n.log2 : Int) ≤ n ∧ (n : ℚ) < 2 ^ ((n.log2 : Int) + 1) := by
  have hlow := Nat.log2_self_le hn
  have hhigh := @Nat.lt_log2_self n
  constructor
  · rw [zpow_natCast]
    exact_mod_cast hlow
  · rw [← Nat.cast_succ, zpow_natCast]
    exact_mod_cast hhigh

/-! ## The exponent -/

/-- The exponent is the binary logarithm less 52, if the format has it. -/
theorem exponentFor_eq {n d : Nat} (hn : n ≠ 0) (hd : d ≠ 0) :
    exponentFor n d = max (-1074) (Int.log 2 ((n : ℚ) / d) - 52) := by
  obtain ⟨hnlow, hnhigh⟩ := log2_bounds hn
  obtain ⟨hdlow, hdhigh⟩ := log2_bounds hd
  have hn' : (0 : ℚ) < n := by exact_mod_cast Nat.pos_of_ne_zero hn
  have hd' : (0 : ℚ) < d := by exact_mod_cast Nat.pos_of_ne_zero hd
  have hr : (0 : ℚ) < n / d := div_pos hn' hd'
  -- the logarithm of the quotient is the difference of the logarithms, or one less
  have hlow : (2 : ℚ) ^ ((n.log2 : Int) - d.log2 - 1) ≤ n / d := by
    rw [le_div_iff₀ hd']
    calc (2 : ℚ) ^ ((n.log2 : Int) - d.log2 - 1) * d
        ≤ 2 ^ ((n.log2 : Int) - d.log2 - 1) * 2 ^ ((d.log2 : Int) + 1) := by gcongr
      _ = 2 ^ (n.log2 : Int) := by
        rw [← zpow_add₀ (by norm_num)]
        congr 1
        ring
      _ ≤ n := hnlow
  have hhigh : (n : ℚ) / d < 2 ^ ((n.log2 : Int) - d.log2 + 1) := by
    rw [div_lt_iff₀ hd']
    calc (n : ℚ) < 2 ^ ((n.log2 : Int) + 1) := hnhigh
      _ = 2 ^ ((n.log2 : Int) - d.log2 + 1) * 2 ^ (d.log2 : Int) := by
        rw [← zpow_add₀ (by norm_num)]
        congr 1
        ring
      _ ≤ 2 ^ ((n.log2 : Int) - d.log2 + 1) * d := by gcongr
  have hle := (Int.zpow_le_iff_le_log (b := 2) (by norm_num) hr).mp (by simpa using hlow)
  have hlt := (Int.lt_zpow_iff_log_lt (b := 2) (by norm_num) hr).mp (by simpa using hhigh)
  have hfits := (fits_iff (Nat.pos_of_ne_zero hd) ((n.log2 : Int) - d.log2 - 52)).trans
    (Int.zpow_le_iff_le_log (b := 2) (by norm_num) hr)
  unfold exponentFor
  simp only [hfits]
  split_ifs with hcase <;> omega

/-! ## Rounding -/

theorem scaledRound_congr {n d n' d' : Nat} (hd : 0 < d) (hd' : 0 < d') (h : n * d' = n' * d)
    (e : Int) : scaledRound n d e = scaledRound n' d' e := by
  have hpow : 0 < Nat.pow 2 e.natAbs := Nat.pow_pos (by norm_num)
  unfold scaledRound
  split_ifs with he
  · refine roundDiv_congr hd hd' ?_
    rw [mul_right_comm, h, mul_right_comm]
  · refine roundDiv_congr (Nat.mul_pos hd hpow) (Nat.mul_pos hd' hpow) ?_
    rw [← mul_assoc, h, mul_assoc]

/-- A multiple of a power of two is that many times the power. -/
theorem scaledRound_of_value {n d m : Nat} {e : Int} (hd : 0 < d)
    (h : (n : ℚ) / d = m * 2 ^ e) : scaledRound n d e = m := by
  have hd' : (d : ℚ) ≠ 0 := by exact_mod_cast hd.ne'
  have hpow : 0 < Nat.pow 2 e.natAbs := Nat.pow_pos (by norm_num)
  have hpow' : ((Nat.pow 2 e.natAbs : Nat) : ℚ) ≠ 0 := by exact_mod_cast hpow.ne'
  rw [div_eq_iff hd'] at h
  unfold scaledRound
  split_ifs with he
  · rw [two_zpow_of_neg he] at h
    have hmul : n * Nat.pow 2 e.natAbs = m * d := by
      have : (n : ℚ) * (Nat.pow 2 e.natAbs : Nat) = m * d := by
        rw [h]
        field_simp
      exact_mod_cast this
    rw [hmul, roundDiv_mul_self m hd]
  · rw [two_zpow_of_nonneg he] at h
    have hmul : n = m * (d * Nat.pow 2 e.natAbs) := by
      have : (n : ℚ) = m * (d * (Nat.pow 2 e.natAbs : Nat)) := by
        rw [h]
        ring
      exact_mod_cast this
    rw [hmul, roundDiv_mul_self m (Nat.mul_pos hd hpow)]

/-- Equal fractions are rounded to the same double. -/
theorem ofRatio_congr (negative : Bool) {n d n' d' : Nat} (hd : 0 < d) (hd' : 0 < d')
    (h : n * d' = n' * d) : ofRatio negative n d = ofRatio negative n' d' := by
  have hzero : n = 0 ↔ n' = 0 := by
    constructor
    · rintro rfl
      have : n' * d = 0 := by simpa using h.symm
      exact (Nat.mul_eq_zero.mp this).resolve_right hd.ne'
    · rintro rfl
      have : n * d' = 0 := by simpa using h
      exact (Nat.mul_eq_zero.mp this).resolve_right hd'.ne'
  have hratio : (n : ℚ) / d = n' / d' := by
    rw [div_eq_div_iff (by exact_mod_cast hd.ne') (by exact_mod_cast hd'.ne')]
    exact_mod_cast h
  unfold ofRatio
  by_cases hn : n = 0
  · rw [if_pos hn, if_pos (hzero.mp hn)]
  · have hn' : n' ≠ 0 := mt hzero.mpr hn
    have hexp : exponentFor n d = exponentFor n' d' := by
      rw [exponentFor_eq hn hd.ne', exponentFor_eq hn' hd'.ne', hratio]
    rw [if_neg hn, if_neg hn']
    simp only [hexp, scaledRound_congr hd hd' h]

theorem pack_of_canonical (negative : Bool) {m : Nat} {e : Int} (h : Canonical m e) :
    pack negative m e = .finite negative m e h := by
  have hm : m ≠ Nat.pow 2 53 := h.1.ne
  unfold pack
  simp only [if_neg hm]
  rw [dif_pos h]

/-- The one form of a mantissa and an exponent has the exponent that its value asks for. -/
theorem exponentFor_of_value {n d m : Nat} {e : Int} (hn : n ≠ 0) (hd : 0 < d)
    (hform : Canonical m e) (h : (n : ℚ) / d = m * 2 ^ e) : exponentFor n d = e := by
  obtain ⟨hm, hlow, -, hlead⟩ := hform
  have hd' : (0 : ℚ) < d := by exact_mod_cast hd
  have hr : (0 : ℚ) < n / d := div_pos (by exact_mod_cast Nat.pos_of_ne_zero hn) hd'
  have hpow : (0 : ℚ) < 2 ^ e := by positivity
  have hlt : Int.log 2 ((n : ℚ) / d) < e + 53 := by
    rw [← Int.lt_zpow_iff_log_lt (b := 2) (by norm_num) hr, h, add_comm,
      zpow_add₀ (by norm_num)]
    refine mul_lt_mul_of_pos_right ?_ hpow
    exact_mod_cast hm
  rw [exponentFor_eq hn hd.ne']
  rcases hlead with hlead | hlead
  · have hle : e + 52 ≤ Int.log 2 ((n : ℚ) / d) := by
      rw [← Int.zpow_le_iff_le_log (b := 2) (by norm_num) hr, h, add_comm,
        zpow_add₀ (by norm_num)]
      refine mul_le_mul_of_nonneg_right ?_ hpow.le
      exact_mod_cast hlead
    omega
  · omega

/-- The value of a double is rounded to the double. -/
theorem ofRatio_of_value (negative : Bool) {n d m : Nat} {e : Int} (hd : 0 < d)
    (hform : Canonical m e) (h : (n : ℚ) / d = m * 2 ^ e) :
    ofRatio negative n d = .finite negative m e hform := by
  have hd' : (d : ℚ) ≠ 0 := by exact_mod_cast hd.ne'
  unfold ofRatio
  by_cases hn : n = 0
  · -- zero has the least exponent
    have hm : m = 0 := by
      rw [hn, Nat.cast_zero, zero_div, eq_comm, mul_eq_zero] at h
      exact_mod_cast h.resolve_right (by positivity)
    have he : e = -1074 := by
      rcases hform.2.2.2 with hlead | hlead
      · exact absurd (hm ▸ hlead) (by decide)
      · exact hlead
    subst hm he
    rw [if_pos hn, pack_of_canonical negative hform]
  · rw [if_neg hn]
    simp only [exponentFor_of_value hn hd hform h, scaledRound_of_value hd h]
    exact pack_of_canonical negative hform

end Remedy.Binary64
