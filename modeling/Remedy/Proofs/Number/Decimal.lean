import Remedy.Number.Decimal
import Remedy.Proofs.Number.Binary64

/-!
# Decimal digits and doubles

The digits of a natural number have its value and do not begin with a zero. The double nearest to a
decimal depends on the value of the decimal only, so that zeros may be dropped from its end or added
to it, and the shortest decimal of a double has the double as its nearest.

Main results:

* `valueOf_naturalChars`: the digits of a number have its value.
* `toBinary64_shift`: zeros at the end of the digits count as an exponent.
* `toBinary64_exact`: all digits of a double read back as the double.
* `toBinary64_shortest`: the shortest digits of a double read back as the double.
-/

namespace Remedy.Decimal

/-! ## Rows of digits -/

theorem valueOf_eq (ds : List Char) : valueOf ds = Nat.ofDigitChars 10 ds 0 := by
  unfold valueOf
  rw [Nat.ofDigitChars_eq_foldl]
  congr 1
  funext acc c
  rw [mul_comm]
  rfl

theorem valueOf_append (as bs : List Char) :
    valueOf (as ++ bs) = valueOf as * 10 ^ bs.length + valueOf bs := by
  rw [valueOf_eq, valueOf_eq, valueOf_eq, Nat.ofDigitChars_append,
    Nat.ofDigitChars_eq_ofDigitChars_zero, mul_comm]

theorem valueOf_zeros (k : Nat) : valueOf (List.replicate k '0') = 0 := by
  rw [valueOf_eq, Nat.ofDigitChars_replicate_zero, mul_zero]

theorem valueOf_naturalChars (n : Nat) : valueOf (naturalChars n) = n := by
  rw [valueOf_eq, naturalChars, Nat.ofDigitChars_ten_toDigits]

theorem isDigit_of_mem_naturalChars {n : Nat} {c : Char} (h : c ∈ naturalChars n) :
    c.isDigit = true :=
  Nat.isDigit_of_mem_toDigits (by norm_num) (by norm_num) h

theorem naturalChars_inj {m n : Nat} (h : naturalChars m = naturalChars n) : m = n := by
  rw [← valueOf_naturalChars m, h, valueOf_naturalChars]

theorem minus_notMem_naturalChars (n : Nat) : '-' ∉ naturalChars n := by
  intro h
  cases isDigit_of_mem_naturalChars h

/-- Different whole numbers have different texts. -/
theorem int_inj {m n : Int} (h : int m = int n) : m = n := by
  have hchars : intChars m = intChars n := String.ofList_injective h
  cases m with
  | ofNat m =>
    cases n with
    | ofNat n => rw [naturalChars_inj hchars]
    | negSucc n =>
      refine absurd ?_ (minus_notMem_naturalChars m)
      rw [show naturalChars m = '-' :: naturalChars (n + 1) from hchars]
      exact List.mem_cons_self
  | negSucc m =>
    cases n with
    | ofNat n =>
      refine absurd ?_ (minus_notMem_naturalChars n)
      rw [show naturalChars n = '-' :: naturalChars (m + 1) from hchars.symm]
      exact List.mem_cons_self
    | negSucc n =>
      have hsucc := naturalChars_inj (List.cons.inj hchars).2
      rw [Nat.succ.inj hsucc]

theorem digit_or_minus_of_mem_intChars {n : Int} {c : Char} (h : c ∈ intChars n) :
    c.isDigit = true ∨ c = '-' := by
  cases n with
  | ofNat n => exact Or.inl (isDigit_of_mem_naturalChars h)
  | negSucc n =>
    rcases List.mem_cons.mp h with rfl | h
    · exact Or.inr rfl
    · exact Or.inl (isDigit_of_mem_naturalChars h)

theorem naturalChars_mul_ten {n : Nat} (hn : n ≠ 0) :
    naturalChars (n * 10) = naturalChars n ++ ['0'] := by
  unfold naturalChars
  rw [Nat.toDigits_of_base_le (by norm_num) (by omega), Nat.mul_div_cancel n (by norm_num),
    Nat.mul_mod_left]
  rfl

/-- The digits of a number begin with a digit that is no zero, unless the number is zero. -/
theorem naturalChars_eq_cons {n : Nat} (hn : n ≠ 0) :
    ∃ c ds, naturalChars n = c :: ds ∧ c ≠ '0' := by
  induction n using Nat.strong_induction_on with
  | _ n ih =>
    unfold naturalChars
    rw [Nat.toDigits_eq_if (by norm_num)]
    by_cases hlt : n < 10
    · rw [if_pos hlt]
      refine ⟨_, [], rfl, ?_⟩
      rw [ne_eq, Nat.digitChar_eq_zero]
      exact hn
    · rw [if_neg hlt]
      obtain ⟨c, ds, hds, hc⟩ := ih (n / 10) (by omega) (by omega)
      unfold naturalChars at hds
      exact ⟨c, ds ++ _, by rw [hds]; rfl, hc⟩

/-- A number has at most so many digits when it is below the power of ten. -/
theorem length_naturalChars_le_iff {n k : Nat} (hk : 0 < k) :
    (naturalChars n).length ≤ k ↔ n < 10 ^ k :=
  Nat.length_toDigits_le_iff (by norm_num) hk

/-! ## The characters of numbers -/

/-- A character that the text of a number may have. -/
def IsNumberChar (c : Char) : Prop :=
  c.isDigit = true ∨ c ∈ ['.', 'e', '+', '-']

instance (c : Char) : Decidable (IsNumberChar c) :=
  inferInstanceAs (Decidable (_ ∨ _))

theorem isNumberChar_of_mem_zeros {k : Nat} {c : Char} (h : c ∈ List.replicate k '0') :
    IsNumberChar c := by
  rw [List.eq_of_mem_replicate h]
  exact Or.inl rfl

theorem isNumberChar_of_mem_exponentChars {width : Nat} {e : Int} {c : Char}
    (h : c ∈ exponentChars width e) : IsNumberChar c := by
  simp only [exponentChars, List.cons_append, List.mem_cons, List.mem_append] at h
  rcases h with rfl | hzero | hdigit
  · split
    · exact Or.inr (by decide)
    · exact Or.inr (by decide)
  · exact isNumberChar_of_mem_zeros hzero
  · exact Or.inl (isDigit_of_mem_naturalChars hdigit)

theorem isNumberChar_of_mem_layOut {layout : Layout} {ds : List Char}
    (hds : ∀ c ∈ ds, c.isDigit = true) {point : Int} {c : Char} (h : c ∈ layOut layout ds point) :
    IsNumberChar c := by
  have hdigit : ∀ d ∈ ds, IsNumberChar d := fun d hd => Or.inl (hds d hd)
  have hpoint : IsNumberChar '.' := Or.inr (by decide)
  have hzero : IsNumberChar '0' := Or.inl rfl
  unfold layOut at h
  split at h
  · split at h
    · simp only [List.cons_append, List.mem_cons, List.mem_append] at h
      rcases h with rfl | rfl | h | h
      · exact hzero
      · exact hpoint
      · exact isNumberChar_of_mem_zeros h
      · exact hdigit c h
    · dsimp only at h
      split at h
      · simp only [List.mem_append, List.mem_cons, List.not_mem_nil, or_false] at h
        rcases h with (h | h) | rfl | rfl
        · exact hdigit c h
        · exact isNumberChar_of_mem_zeros h
        · exact hpoint
        · exact hzero
      · simp only [List.mem_append, List.mem_cons] at h
        rcases h with h | rfl | h
        · exact hdigit c (List.mem_of_mem_take h)
        · exact hpoint
        · exact hdigit c (List.mem_of_mem_drop h)
  · simp only [List.mem_append, List.mem_cons] at h
    rcases h with (h | h) | rfl | h
    · exact hdigit c (List.mem_of_mem_take h)
    · split at h
      · cases h
      · rcases List.mem_cons.mp h with rfl | h
        · exact hpoint
        · exact hdigit c (List.mem_of_mem_drop h)
    · exact Or.inr (by decide)
    · exact isNumberChar_of_mem_exponentChars h

/-! ## Decimals of the same value -/

/-- A zero at the end of the digits counts as one in the exponent. -/
theorem toBinary64_mul_ten (negative : Bool) {m : Nat} (hm : m ≠ 0) (e : Int) :
    (⟨m * 10, e⟩ : Scaled).toBinary64 negative = (⟨m, e + 1⟩ : Scaled).toBinary64 negative := by
  have hm' : m * 10 ≠ 0 := by omega
  have hsize : e + ((naturalChars m ++ ['0']).length : Int) = e + 1 + (naturalChars m).length := by
    rw [List.length_append, List.length_singleton]
    omega
  have hpow : ∀ k : Nat, 0 < Nat.pow 10 k := fun k => Nat.pow_pos (by norm_num)
  unfold Scaled.toBinary64
  simp only [if_neg hm, if_neg hm', naturalChars_mul_ten hm, hsize]
  congr 2
  by_cases hneg : e + 1 < 0
  · -- the point stays to the left of the digits
    have habs : e.natAbs = (e + 1).natAbs + 1 := by omega
    rw [if_pos (show e < 0 by omega), if_pos hneg, habs]
    refine Binary64.ofRatio_congr negative (hpow _) (hpow _) ?_
    show m * 10 * 10 ^ _ = m * 10 ^ (_ + 1)
    ring
  · rw [if_neg hneg]
    by_cases he : e < 0
    · have heq : e = -1 := by omega
      subst heq
      rw [if_pos he]
      refine Binary64.ofRatio_congr negative (hpow _) one_pos ?_
      show m * 10 * 1 = m * 10 ^ 0 * 10 ^ 1
      ring
    · have habs : (e + 1).natAbs = e.natAbs + 1 := by omega
      rw [if_neg he, habs]
      congr 1
      show m * 10 * 10 ^ _ = m * 10 ^ (_ + 1)
      ring

/-- Zeros at the end of the digits count as an exponent. -/
theorem toBinary64_shift (negative : Bool) {m : Nat} (hm : m ≠ 0) (k : Nat) (e : Int) :
    (⟨m * 10 ^ k, e⟩ : Scaled).toBinary64 negative = (⟨m, e + k⟩ : Scaled).toBinary64 negative := by
  induction k generalizing e with
  | zero => simp
  | succ k ih =>
    have hpow : m * 10 ^ k ≠ 0 := Nat.mul_ne_zero hm (by positivity)
    rw [pow_succ, ← mul_assoc, toBinary64_mul_ten negative hpow, ih]
    congr 2
    push_cast
    ring

theorem toBinary64_dropZeros (negative : Bool) (fuel : Nat) {x : Scaled} (hx : x.digits ≠ 0) :
    (dropZeros fuel x).digits ≠ 0 ∧
      (dropZeros fuel x).toBinary64 negative = x.toBinary64 negative := by
  induction fuel generalizing x with
  | zero => exact ⟨hx, rfl⟩
  | succ fuel ih =>
    unfold dropZeros
    split
    · rename_i hzero
      rw [Bool.and_eq_true, beq_iff_eq] at hzero
      have hdigits : x.digits = x.digits / 10 * 10 := by omega
      have hquot : x.digits / 10 ≠ 0 := by omega
      obtain ⟨hne, hsame⟩ := @ih ⟨x.digits / 10, x.exponent + 1⟩ hquot
      refine ⟨hne, ?_⟩
      rw [hsame, ← toBinary64_mul_ten negative hquot, ← hdigits]
    · exact ⟨hx, rfl⟩

/-! ## Decimals of doubles -/

/-- The double nearest to a decimal that is neither very large nor very small. -/
theorem toBinary64_of_size (negative : Bool) {x : Scaled} (hx : x.digits ≠ 0)
    (hlow : -400 ≤ x.exponent + (naturalChars x.digits).length)
    (hhigh : x.exponent + (naturalChars x.digits).length ≤ 400) :
    x.toBinary64 negative =
      if x.exponent < 0 then Binary64.ofRatio negative x.digits (Nat.pow 10 x.exponent.natAbs)
      else Binary64.ofRatio negative (x.digits * Nat.pow 10 x.exponent.natAbs) 1 := by
  unfold Scaled.toBinary64
  simp only [if_neg hx, if_neg (not_lt.mpr hhigh), if_neg (not_lt.mpr hlow)]

theorem two_pow_le_ten_pow {k b : Nat} (hk : k ≤ 3 * b) : 2 ^ k ≤ 10 ^ b := by
  calc 2 ^ k ≤ 2 ^ (3 * b) := Nat.pow_le_pow_right (by norm_num) hk
    _ = (2 ^ 3) ^ b := pow_mul 2 3 b
    _ ≤ 10 ^ b := Nat.pow_le_pow_left (by norm_num) b

/-- All digits of a double with a negative exponent stand close to the point. -/
theorem length_mul_five_pow {m k b : Nat} (hm : m ≠ 0) (hlt : m < Nat.pow 2 53) (hk : k ≤ 3 * b) :
    (naturalChars (m * Nat.pow 5 k)).length ≤ 16 + k ∧
      k ≤ (naturalChars (m * Nat.pow 5 k)).length + b := by
  have hlt' : m < 2 ^ 53 := hlt
  show (naturalChars (m * 5 ^ k)).length ≤ _ ∧ k ≤ (naturalChars (m * 5 ^ k)).length + b
  constructor
  · rw [length_naturalChars_le_iff (by omega)]
    calc m * 5 ^ k < 10 ^ 16 * 5 ^ k := by
          refine Nat.mul_lt_mul_of_pos_right (hlt'.trans ?_) (by positivity)
          norm_num
      _ ≤ 10 ^ 16 * 10 ^ k := by gcongr; norm_num
      _ = 10 ^ (16 + k) := by rw [pow_add]
  · by_contra hshort
    -- with so few digits, the number would lie below `5 ^ k`
    have hlen : (naturalChars (m * 5 ^ k)).length ≤ k - b := by omega
    have hbelow := (length_naturalChars_le_iff (by omega)).mp hlen
    have hsplit : k - b + b = k := by omega
    have hcontra : 10 ^ k < 10 ^ k := by
      calc 10 ^ k = 5 ^ k * 2 ^ k := mul_pow 5 2 k
        _ ≤ m * 5 ^ k * 2 ^ k := by
          gcongr
          exact Nat.le_mul_of_pos_left _ (Nat.pos_of_ne_zero hm)
        _ < 10 ^ (k - b) * 2 ^ k := by gcongr
        _ ≤ 10 ^ (k - b) * 10 ^ b := Nat.mul_le_mul_left _ (two_pow_le_ten_pow hk)
        _ = 10 ^ k := by rw [← pow_add, hsplit]
    exact lt_irrefl _ hcontra

/-- All digits of a double read back as the double. -/
theorem toBinary64_exact (negative : Bool) {m : Nat} {e : Int} (hm : m ≠ 0)
    (hform : Binary64.Canonical m e) :
    (exact m e).toBinary64 negative = .finite negative m e hform := by
  obtain ⟨hlt, hlow, hhigh, -⟩ := id hform
  unfold exact
  by_cases he : e < 0
  · obtain ⟨hle, hge⟩ := length_mul_five_pow hm hlt (show e.natAbs ≤ 3 * 400 by omega)
    have hpow : Nat.pow 5 e.natAbs ≠ 0 := pow_ne_zero _ (by norm_num)
    rw [if_pos he, toBinary64_of_size negative (Nat.mul_ne_zero hm hpow) (by dsimp only; omega)
      (by dsimp only; omega)]
    rw [if_pos (show e < 0 from he)]
    refine Binary64.ofRatio_of_value negative (Nat.pow_pos (by norm_num)) hform ?_
    rw [Binary64.two_zpow_of_neg he]
    show ((m * 5 ^ e.natAbs : Nat) : ℚ) / (10 ^ e.natAbs : Nat) = m * (1 / (2 ^ e.natAbs : Nat))
    have hten : (10 : ℚ) ^ e.natAbs = 5 ^ e.natAbs * 2 ^ e.natAbs := by
      rw [← mul_pow]
      norm_num
    push_cast
    rw [hten]
    field_simp
  · have hpow : Nat.pow 2 e.natAbs ≠ 0 := pow_ne_zero _ (by norm_num)
    have hlen : (naturalChars (m * Nat.pow 2 e.natAbs)).length ≤ 400 := by
      rw [length_naturalChars_le_iff (by norm_num)]
      have hlt' : m < 2 ^ 53 := hlt
      show m * 2 ^ e.natAbs < _
      calc m * 2 ^ e.natAbs < 2 ^ 53 * 2 ^ e.natAbs := by gcongr
        _ = 2 ^ (53 + e.natAbs) := by rw [pow_add]
        _ ≤ 10 ^ 400 := two_pow_le_ten_pow (by omega)
    rw [if_neg he, toBinary64_of_size negative (Nat.mul_ne_zero hm hpow) (by dsimp only; omega)
      (by dsimp only; omega)]
    rw [if_neg (show ¬ (0 : Int) < 0 by omega)]
    refine Binary64.ofRatio_of_value negative one_pos hform ?_
    rw [Binary64.two_zpow_of_nonneg he]
    simp

theorem onGrid?_eq_some {x : Binary64} {negative : Bool} {n d : Nat} {k : Int} {s : Scaled}
    (h : onGrid? x negative n d k = some s) : s.digits ≠ 0 ∧ s.toBinary64 negative = x := by
  unfold onGrid? at h
  simp only [Bool.and_eq_true, bne_iff_ne, beq_iff_eq] at h
  split_ifs at h with hboth hupper hlow hhigh
  · cases h
    exact ⟨Nat.succ_ne_zero _, hboth.2⟩
  · cases h
    exact hboth.1
  · cases h
    exact hlow
  · cases h
    exact ⟨Nat.succ_ne_zero _, hhigh⟩

/-- The shortest digits of a double read back as the double. -/
theorem toBinary64_shortest (negative : Bool) {m : Nat} {e : Int} (hm : m ≠ 0)
    (hform : Binary64.Canonical m e) :
    (shortest negative m e (.finite negative m e hform)).digits ≠ 0 ∧
      (shortest negative m e (.finite negative m e hform)).toBinary64 negative =
        .finite negative m e hform := by
  have hexact : (exact m e).digits ≠ 0 := by
    unfold exact
    split_ifs
    · exact Nat.mul_ne_zero hm (pow_ne_zero _ (by norm_num))
    · exact Nat.mul_ne_zero hm (pow_ne_zero _ (by norm_num))
  unfold shortest
  dsimp only
  generalize hfound : List.findSome? _ _ = found
  cases found with
  | none =>
    obtain ⟨hne, hsame⟩ := toBinary64_dropZeros negative 400 hexact
    exact ⟨hne, hsame.trans (toBinary64_exact negative hm hform)⟩
  | some s =>
    obtain ⟨i, -, hi⟩ := List.exists_of_findSome?_eq_some hfound
    obtain ⟨hs, hback⟩ := onGrid?_eq_some hi
    obtain ⟨hne, hsame⟩ := toBinary64_dropZeros negative 400 hs
    exact ⟨hne, hsame.trans hback⟩

end Remedy.Decimal
