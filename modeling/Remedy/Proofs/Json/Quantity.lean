import Remedy.Json.Order
import Mathlib.Algebra.Order.Field.Rat
import Mathlib.Data.List.Lex
import Mathlib.Order.WithBotTop
import Mathlib.Tactic

/-!
# The order of numbers and of texts

Whole numbers, truth values and doubles are compared exactly, by whole-number arithmetic on
numerators and denominators. Here that comparison is shown to be the order of the extended
fractions, so that it has all the properties of a linear order; what is no number compares with
nothing. In the same way the order of texts is the order of their lists of code points.

Main results:

* `Quantity.compare?_eq_some`: two quantities compare as their magnitudes.
* `compareText_compares`: two texts compare as their code points.
-/

namespace Remedy

/-- The numbers that can be compared: the fractions and the two infinities. -/
abbrev Magnitude := WithBotTop ℚ

/-! ## Fractions -/

theorem compare_ratio {a c : Int} {b d : Nat} (hb : 0 < b) (hd : 0 < d) :
    compare ((a : ℚ) / (b : ℚ)) ((c : ℚ) / (d : ℚ)) = compare (a * d) (c * b) := by
  have hb' : (0 : ℚ) < b := by exact_mod_cast hb
  have hd' : (0 : ℚ) < d := by exact_mod_cast hd
  rcases lt_trichotomy (a * (d : Int)) (c * b) with h | h | h
  · have hlt : (a : ℚ) / b < c / d := by
      rw [div_lt_div_iff₀ hb' hd']
      exact_mod_cast h
    rw [compare_lt_iff_lt.mpr hlt, compare_lt_iff_lt.mpr h]
  · have heq : (a : ℚ) / b = c / d := by
      rw [div_eq_div_iff hb'.ne' hd'.ne']
      exact_mod_cast h
    rw [compare_eq_iff_eq.mpr heq, compare_eq_iff_eq.mpr h]
  · have hgt : (c : ℚ) / d < a / b := by
      rw [div_lt_div_iff₀ hd' hb']
      exact_mod_cast h
    rw [compare_gt_iff_gt.mpr hgt, compare_gt_iff_gt.mpr h]

theorem compare_coe (a b : ℚ) : compare (a : Magnitude) (b : Magnitude) = compare a b := by
  rcases lt_trichotomy a b with h | h | h
  · have h' : (a : Magnitude) < b := WithBotTop.coe_lt_coe.mpr h
    rw [compare_lt_iff_lt.mpr h, compare_lt_iff_lt.mpr h']
  · rw [h, compare_eq_iff_eq.mpr rfl, compare_eq_iff_eq.mpr rfl]
  · have h' : (b : Magnitude) < a := WithBotTop.coe_lt_coe.mpr h
    rw [compare_gt_iff_gt.mpr h, compare_gt_iff_gt.mpr h']

theorem compares_then {α : Type} [LinearOrder α] {a b c : α} {o o' : Ordering}
    (hab : o.Compares a b) (hbc : o'.Compares b c) (ho : o ≠ .gt) (ho' : o' ≠ .gt) :
    (o.then o').Compares a c := by
  cases o with
  | gt => exact absurd rfl ho
  | eq =>
    cases hab
    exact hbc
  | lt =>
    cases o' with
    | gt => exact absurd rfl ho'
    | eq =>
      cases hbc
      exact hab
    | lt => exact lt_trans hab hbc

theorem coe_lt_top (a : ℚ) : (a : Magnitude) < ⊤ :=
  WithBot.coe_lt_coe.mpr (WithTop.coe_lt_top a)

theorem bot_lt_coe (a : ℚ) : (⊥ : Magnitude) < a :=
  WithBot.bot_lt_coe _

/-! ## Doubles -/

namespace Binary64

/-- The magnitude of a double; what is no number has none. -/
def magnitude? : Binary64 → Option Magnitude
  | .notANumber => none
  | .infinite negative => some (if negative then ⊥ else ⊤)
  | .finite negative m e h =>
    ((finite negative m e h).ratio?).map fun q => (((q.1 : ℚ) / (q.2 : ℚ) : ℚ) : Magnitude)

/-- A finite double is a fraction. -/
theorem exists_ratio (negative : Bool) {m : Nat} {e : Int} (h : Canonical m e) :
    ∃ n d, (finite negative m e h).ratio? = some (n, d) ∧ 0 < d := by
  rw [ratio?]
  split
  · exact ⟨_, _, rfl, Nat.two_pow_pos _⟩
  · exact ⟨_, _, rfl, Nat.one_pos⟩

theorem magnitude?_finite {negative : Bool} {m : Nat} {e : Int} {h : Canonical m e} {n : Int}
    {d : Nat} (hr : (finite negative m e h).ratio? = some (n, d)) :
    (finite negative m e h).magnitude? = some (((n : ℚ) / (d : ℚ) : ℚ) : Magnitude) := by
  rw [magnitude?, hr]
  rfl

/-- One double is less than another exactly when its magnitude is. -/
theorem lt_iff {x y : Binary64} {a b : Magnitude} (hx : x.magnitude? = some a)
    (hy : y.magnitude? = some b) : x.lt y = true ↔ a < b := by
  cases x with
  | notANumber => cases hx
  | infinite p =>
    cases y with
    | notANumber => cases hy
    | infinite q =>
      cases hx
      cases hy
      cases p <;> cases q <;> simp [lt]
    | finite q m e h =>
      obtain ⟨n, d, hr, -⟩ := exists_ratio q h
      rw [magnitude?_finite hr] at hy
      cases hx
      cases hy
      cases p
      · simp [lt]
      · simpa [lt] using bot_lt_coe _
  | finite p m e h =>
    obtain ⟨n, d, hr, hd⟩ := exists_ratio p h
    rw [magnitude?_finite hr] at hx
    cases hx
    cases y with
    | notANumber => cases hy
    | infinite q =>
      cases hy
      cases q
      · simpa [lt] using coe_lt_top _
      · simp [lt]
    | finite q m' e' h' =>
      obtain ⟨n', d', hr', hd'⟩ := exists_ratio q h'
      rw [magnitude?_finite hr'] at hy
      cases hy
      have hcompare := compare_ratio (a := n) (c := n') hd hd'
      rw [← compare_lt_iff_lt, compare_coe, hcompare, compare_lt_iff_lt]
      simp [lt, hr, hr', ratioLt]

/-- Two doubles have the same value exactly when they have the same magnitude. -/
theorem sameValue_iff {x y : Binary64} {a b : Magnitude} (hx : x.magnitude? = some a)
    (hy : y.magnitude? = some b) : x.sameValue y = true ↔ a = b := by
  cases x with
  | notANumber => cases hx
  | infinite p =>
    cases y with
    | notANumber => cases hy
    | infinite q =>
      cases hx
      cases hy
      cases p <;> cases q <;> simp [sameValue]
    | finite q m e h =>
      obtain ⟨n, d, hr, -⟩ := exists_ratio q h
      rw [magnitude?_finite hr] at hy
      cases hx
      cases hy
      cases p
      · simpa [sameValue, ratio?] using (WithBotTop.coe_ne_top _).symm
      · simpa [sameValue, ratio?] using (WithBotTop.coe_ne_bot _).symm
  | finite p m e h =>
    obtain ⟨n, d, hr, hd⟩ := exists_ratio p h
    rw [magnitude?_finite hr] at hx
    cases hx
    cases y with
    | notANumber => cases hy
    | infinite q =>
      have hnone : (infinite q).ratio? = none := rfl
      cases hy
      cases q
      · simp [sameValue, hr, hnone]
      · simp [sameValue, hr, hnone]
    | finite q m' e' h' =>
      obtain ⟨n', d', hr', hd'⟩ := exists_ratio q h'
      rw [magnitude?_finite hr'] at hy
      cases hy
      have hcompare := compare_ratio (a := n) (c := n') hd hd'
      have hiff : ((((n : ℚ) / d : ℚ) : Magnitude) = (((n' : ℚ) / d' : ℚ) : Magnitude)) ↔
          n * d' = n' * d := by
        rw [← compare_eq_iff_eq, compare_coe, hcompare, compare_eq_iff_eq]
      rw [hiff]
      simp [sameValue, hr, hr']

theorem notANumber_of_magnitude? {x : Binary64} (h : x.magnitude? = none) : x = .notANumber := by
  cases x with
  | notANumber => rfl
  | infinite p => cases h
  | finite p m e hc =>
    obtain ⟨n, d, hr, -⟩ := exists_ratio p hc
    rw [magnitude?_finite hr] at h
    cases h

end Binary64

/-! ## Quantities -/

namespace Json.Quantity

/-- The magnitude of a quantity; what is no number has none. -/
def magnitude? : Quantity → Option Magnitude
  | .whole n => some ((n : ℚ) : Magnitude)
  | .double x => x.magnitude?

theorem compare_whole (a b : Int) :
    compare a b = compare ((a : ℚ) : Magnitude) ((b : ℚ) : Magnitude) := by
  have h := compare_ratio (a := a) (c := b) Nat.one_pos Nat.one_pos
  rw [compare_coe]
  simpa using h.symm

theorem compareWhole_eq {n : Int} {y : Binary64} {b : Magnitude} (hy : y.magnitude? = some b) :
    compare?.compareWhole n y = some (compare ((n : ℚ) : Magnitude) b) := by
  cases y with
  | notANumber => cases hy
  | infinite q =>
    cases hy
    cases q
    · exact congrArg some (compare_lt_iff_lt.mpr (coe_lt_top n)).symm
    · exact congrArg some (compare_gt_iff_gt.mpr (bot_lt_coe n)).symm
  | finite q m e h =>
    obtain ⟨c, d, hr, hd⟩ := Binary64.exists_ratio q h
    rw [Binary64.magnitude?_finite hr] at hy
    cases hy
    have hcompare := compare_ratio (a := n) (c := c) Nat.one_pos hd
    rw [compare_coe]
    simpa [compare?.compareWhole, hr] using hcompare.symm

theorem compareDouble_eq {x y : Binary64} {a b : Magnitude} (hx : x.magnitude? = some a)
    (hy : y.magnitude? = some b) :
    compare? (.double x) (.double y) = some (compare a b) := by
  have hlt := Binary64.lt_iff hx hy
  have hgt := Binary64.lt_iff hy hx
  have hsame := Binary64.sameValue_iff hx hy
  rcases lt_trichotomy a b with h | h | h
  · rw [compare?, if_pos (hlt.mpr h), compare_lt_iff_lt.mpr h]
  · rw [compare?, if_neg fun hc => (hlt.mp hc).ne h, if_neg fun hc => (hgt.mp hc).ne' h,
      if_pos (hsame.mpr h), compare_eq_iff_eq.mpr h]
  · rw [compare?, if_neg fun hc => (hlt.mp hc).asymm h, if_pos (hgt.mpr h),
      compare_gt_iff_gt.mpr h]

/-- Quantities compare as their magnitudes, and one without a magnitude compares with nothing. -/
theorem compare?_eq (q r : Quantity) :
    q.compare? r = q.magnitude?.bind fun a => r.magnitude?.map fun b => compare a b := by
  cases q with
  | whole m =>
    cases r with
    | whole n => exact congrArg some (compare_whole m n)
    | double y =>
      cases hy : y.magnitude? with
      | none =>
        rw [Binary64.notANumber_of_magnitude? hy]
        rfl
      | some b => simpa [magnitude?, compare?, hy] using compareWhole_eq hy
  | double x =>
    cases hx : x.magnitude? with
    | none =>
      rw [Binary64.notANumber_of_magnitude? hx]
      cases r with
      | whole n => rfl
      | double y => cases y <;> rfl
    | some a =>
      cases r with
      | whole n =>
        have hswap : (compare ((n : ℚ) : Magnitude) a).swap = compare a ((n : ℚ) : Magnitude) :=
          Std.OrientedOrd.eq_swap.symm
        simp [magnitude?, compare?, hx, compareWhole_eq hx, hswap]
      | double y =>
        cases hy : y.magnitude? with
        | none =>
          rw [Binary64.notANumber_of_magnitude? hy]
          cases x <;> simp [magnitude?, compare?, Binary64.lt, Binary64.sameValue,
            Binary64.ratio?, Binary64.magnitude?]
        | some b => simpa [magnitude?, hx, hy] using compareDouble_eq hx hy

theorem compare?_eq_some {q r : Quantity} {o : Ordering} :
    q.compare? r = some o ↔
      ∃ a b, q.magnitude? = some a ∧ r.magnitude? = some b ∧ o.Compares a b := by
  rw [compare?_eq]
  constructor
  · intro h
    obtain ⟨a, ha, hrest⟩ := Option.bind_eq_some_iff.mp h
    obtain ⟨b, hb, rfl⟩ := Option.map_eq_some_iff.mp hrest
    exact ⟨a, b, ha, hb, cmp_eq_compare a b ▸ cmp_compares a b⟩
  · rintro ⟨a, b, ha, hb, hc⟩
    have hc' := cmp_eq_compare a b ▸ cmp_compares a b
    rw [ha, hb, Ordering.Compares.inj hc hc']
    rfl

end Json.Quantity

/-! ## Texts -/

namespace Text

/-- The code points of a text. -/
def codes (s : String) : List Nat :=
  s.toList.map Char.toNat

theorem codes_injective : Function.Injective codes := by
  intro s t h
  have hchar : Function.Injective Char.toNat := fun a b hab => Char.ext (UInt32.toNat_inj.mp hab)
  exact String.toList_injective (List.map_injective_iff.mpr hchar h)

theorem precedes_iff {s t : String} : precedes s t = true ↔ codes s ≤ codes t := by
  simp [precedes, codes]

end Text

/-- Texts compare as their code points. -/
theorem Json.compareText_compares (s t : String) :
    (compareText s t).Compares (Text.codes s) (Text.codes t) := by
  rw [compareText, compareOfLessAndEq]
  split
  · assumption
  · split
    · assumption
    · rename_i hlt hne
      exact lt_of_le_of_ne (not_lt.mp hlt) (Ne.symm hne)

theorem Json.compareText_swap (s t : String) : compareText t s = (compareText s t).swap :=
  Ordering.Compares.inj (compareText_compares t s)
    (Ordering.compares_swap.mpr (compareText_compares s t))

theorem Json.compareText_trans {s t u : String} (hst : compareText s t ≠ .gt)
    (htu : compareText t u ≠ .gt) : compareText s u = (compareText s t).then (compareText t u) :=
  Ordering.Compares.inj (compareText_compares s u)
    (compares_then (compareText_compares s t) (compareText_compares t u) hst htu)

end Remedy
