import Remedy.Proofs.Json.Quantity
import Remedy.Store.Matching
import Mathlib.Data.List.Induction

/-!
# The first row of a flattened object

Rows are ordered by key and then by value. A number that is no number counts as equal to all numbers,
so the order of rows is not transitive throughout; it is transitive enough that the row which is kept
in going through an object comes after no other row of it.

Main results:

* `Row.compare_swap`: exchanging two rows turns their order around.
* `Row.not_gt_of_lt`: what comes before a row comes after none that the row does not come after.
* `firstRow?_isFirst`: the row that is compared comes after no other row of its object.
-/

namespace Remedy.Store

/-! ## Keys -/

theorem RowKey.compare_swap (k l : RowKey) : l.compare k = (k.compare l).swap := by
  cases k with
  | place m =>
    cases l with
    | place n => exact Nat.compare_swap m n |>.symm
    | name t => rfl
  | name s =>
    cases l with
    | place n => rfl
    | name t => exact Json.compareText_swap s t

theorem RowKey.compare_trans {k l m : RowKey} (hkl : k.compare l ≠ .gt) (hlm : l.compare m ≠ .gt) :
    k.compare m = (k.compare l).then (l.compare m) := by
  cases k with
  | place a =>
    cases l with
    | place b =>
      cases m with
      | place c =>
        exact compare_iff _ _ |>.mpr
          (compares_then ((compare_iff a b).mp rfl) ((compare_iff b c).mp rfl) hkl hlm)
      | name t =>
        simp only [RowKey.compare] at hkl ⊢
        cases h : Ord.compare a b with
        | gt => exact absurd h hkl
        | lt => rfl
        | eq => rfl
    | name s =>
      cases m with
      | place c => exact absurd rfl hlm
      | name t => rfl
  | name s =>
    cases l with
    | place b => exact absurd rfl hkl
    | name t =>
      cases m with
      | place c => exact absurd rfl hlm
      | name u => exact Json.compareText_trans hkl hlm

/-! ## Values -/

theorem getD_compare?_swap (q r : Json.Quantity) :
    (r.compare? q).getD .eq = ((q.compare? r).getD .eq).swap := by
  have hswap : r.compare? q = (q.compare? r).map Ordering.swap := by
    rw [Json.Quantity.compare?_eq, Json.Quantity.compare?_eq]
    cases q.magnitude? with
    | none => cases r.magnitude? <;> rfl
    | some a =>
      cases r.magnitude? with
      | none => rfl
      | some b => exact congrArg some Std.OrientedCmp.eq_swap
  rw [hswap]
  cases q.compare? r <;> rfl

theorem RowValue.compare_swap (v w : RowValue) : w.compare v = (v.compare w).swap := by
  cases v with
  | absent => cases w <;> rfl
  | number q =>
    cases w with
    | number r => exact getD_compare?_swap q r
    | absent => rfl
    | text t => rfl
  | text s =>
    cases w with
    | text t => exact Json.compareText_swap s t
    | absent => rfl
    | number r => rfl

/-- What is less than a number that does not come after a third does not come after the third. -/
theorem getD_compare?_of_lt {p q r : Json.Quantity} (hpq : (p.compare? q).getD .eq = .lt)
    (hqr : (q.compare? r).getD .eq ≠ .gt) : (p.compare? r).getD .eq ≠ .gt := by
  obtain ⟨o, ho, hlt⟩ : ∃ o, p.compare? q = some o ∧ o = .lt := by
    cases h : p.compare? q with
    | none => simp [h] at hpq
    | some o => exact ⟨o, rfl, by simpa [h] using hpq⟩
  subst hlt
  obtain ⟨a, b, ha, hb, hab⟩ := Json.Quantity.compare?_eq_some.mp ho
  rw [Json.Quantity.compare?_eq, ha]
  rw [Json.Quantity.compare?_eq, hb] at hqr
  cases hr : r.magnitude? with
  | none => nofun
  | some c =>
    rw [hr] at hqr
    have hbc : b ≤ c := compare_le_iff_le.mp hqr
    exact compare_le_iff_le.mpr ((show a < b from hab).le.trans hbc)

theorem RowValue.not_gt_of_lt {u v w : RowValue} (huv : u.compare v = .lt)
    (hvw : v.compare w ≠ .gt) : u.compare w ≠ .gt := by
  cases u with
  | absent => cases w <;> nofun
  | number p =>
    cases v with
    | absent => cases huv
    | number q =>
      cases w with
      | absent => exact absurd rfl hvw
      | number r => exact getD_compare?_of_lt huv hvw
      | text t => nofun
    | text s =>
      cases w with
      | absent => exact absurd rfl hvw
      | number r => exact absurd rfl hvw
      | text t => nofun
  | text s =>
    cases v with
    | absent => cases huv
    | number q => cases huv
    | text t =>
      cases w with
      | absent => exact absurd rfl hvw
      | number r => exact absurd rfl hvw
      | text x =>
        have htrans := Json.compareText_trans (fun h => nomatch huv.symm.trans h) hvw
        show Json.compareText s x ≠ .gt
        rw [htrans, show Json.compareText s t = .lt from huv]
        nofun

/-! ## Rows -/

theorem Row.compare_swap (a b : Row) : b.compare a = (a.compare b).swap := by
  rw [Row.compare, Row.compare, RowKey.compare_swap a.key, RowValue.compare_swap a.value,
    Ordering.swap_then]

theorem Row.compare_self (a : Row) : a.compare a = .eq := by
  have hswap := Row.compare_swap a a
  cases h : a.compare a with
  | eq => rfl
  | lt =>
    rw [h] at hswap
    cases hswap
  | gt =>
    rw [h] at hswap
    cases hswap

/-- What comes before a row comes after none that the row does not come after. -/
theorem Row.not_gt_of_lt {a b c : Row} (hab : a.compare b = .lt) (hbc : b.compare c ≠ .gt) :
    a.compare c ≠ .gt := by
  rw [Row.compare] at hab hbc ⊢
  have hkab : a.key.compare b.key ≠ .gt := fun h => by rw [h] at hab; cases hab
  have hkbc : b.key.compare c.key ≠ .gt := fun h => hbc (by rw [h]; rfl)
  rw [RowKey.compare_trans hkab hkbc]
  -- The values decide only if the keys of all three are equal.
  cases h₁ : a.key.compare b.key with
  | gt => exact absurd h₁ hkab
  | lt => nofun
  | eq =>
    cases h₂ : b.key.compare c.key with
    | gt => exact absurd h₂ hkbc
    | lt => nofun
    | eq =>
      rw [h₁] at hab
      rw [h₂] at hbc
      exact RowValue.not_gt_of_lt hab hbc

/-! ## First rows -/

/-- The row is one of the object, and comes after no other row of it. -/
def IsFirstRow (fields : Fields) (a : Row) : Prop :=
  a ∈ rowsOfFields fields ∧ ∀ b ∈ rowsOfFields fields, a.compare b ≠ .gt

/-- Keeps the first of the rows met so far. -/
def keepFirst (best : Option Row) (row : Row) : Option Row :=
  match best with
  | none => some row
  | some b => if row.compare b == .lt then some row else some b

theorem firstRow?_eq (fields : Fields) :
    firstRow? fields = (rowsOfFields fields).foldl keepFirst none := rfl

theorem foldl_keepFirst (rows : List Row) :
    (rows = [] ∧ rows.foldl keepFirst none = none) ∨
    ∃ a ∈ rows, rows.foldl keepFirst none = some a ∧ ∀ b ∈ rows, a.compare b ≠ .gt := by
  induction rows using List.reverseRecOn with
  | nil => exact .inl ⟨rfl, rfl⟩
  | append_singleton rows x ih =>
    right
    rw [List.foldl_append]
    rcases ih with ⟨rfl, -⟩ | ⟨a, ha, hfold, hleast⟩
    · refine ⟨x, by simp, rfl, ?_⟩
      simp [Row.compare_self]
    · rw [hfold]
      by_cases hlt : x.compare a = .lt
      · refine ⟨x, by simp, by simp [keepFirst, hlt], fun b hb => ?_⟩
        rcases List.mem_append.mp hb with hb | hb
        · exact Row.not_gt_of_lt hlt (hleast b hb)
        · rw [List.mem_singleton] at hb
          rw [hb, Row.compare_self]
          nofun
      · refine ⟨a, List.mem_append_left _ ha, by simp [keepFirst, hlt], fun b hb => ?_⟩
        rcases List.mem_append.mp hb with hb | hb
        · exact hleast b hb
        · rw [List.mem_singleton] at hb
          rw [hb, Row.compare_swap x a]
          intro hgt
          cases h : x.compare a with
          | lt => exact hlt h
          | eq => simp [h] at hgt
          | gt => simp [h] at hgt

/-- The row that is compared comes after no other row of its object. -/
theorem firstRow?_isFirst {fields : Fields} {a : Row} (h : firstRow? fields = some a) :
    IsFirstRow fields a := by
  rw [firstRow?_eq] at h
  rcases foldl_keepFirst (rowsOfFields fields) with ⟨-, hnone⟩ | ⟨b, hb, hfold, hleast⟩
  · rw [hnone] at h
    cases h
  · rw [hfold] at h
    cases h
    exact ⟨hb, hleast⟩

theorem exists_firstRow? {fields : Fields} {a : Row} (h : a ∈ rowsOfFields fields) :
    ∃ b, firstRow? fields = some b := by
  rw [firstRow?_eq]
  rcases foldl_keepFirst (rowsOfFields fields) with ⟨hnil, -⟩ | ⟨b, -, hfold, -⟩
  · rw [hnil] at h
    cases h
  · exact ⟨b, hfold⟩

end Remedy.Store
