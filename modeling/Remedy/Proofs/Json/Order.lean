import Remedy.Proofs.Json.Quantity
import Mathlib.Data.List.Perm.Subperm

/-!
# Meaning and order of JSON values

Two values mean the same by a relation that looks entries of objects up by their keys, and two
values may have an order. On values in which no object has a key twice, the first relation is
symmetric and transitive, and the order is the order of such classes: it turns around when the
values are exchanged, does not see the difference of values that mean the same, and is transitive.
A double that is no number means the same as nothing, itself included, so neither relation is
reflexive.

Main results:

* `sameValue_symm`, `sameValue_trans`.
* `order?_swap`: exchanging two values turns their order around.
* `order?_congr_left`: values that mean the same have the same order with any third value.
* `order?_trans`: the order is transitive.
-/

namespace Remedy.Json

/-! ## Values in which no object has a key twice -/

mutual

/-- No object inside the value has a key twice. -/
def proper : Json → Bool
  | .arr xs => properItems xs
  | .obj fields => (fields.map Prod.fst).Nodup && properFields fields
  | .null | .bool _ | .int _ | .real _ | .str _ => true

/-- `proper` of each item. -/
def properItems : List Json → Bool
  | [] => true
  | x :: xs => proper x && properItems xs

/-- `proper` of each entry's value. -/
def properFields : List (String × Json) → Bool
  | [] => true
  | (_, v) :: rest => proper v && properFields rest

end

theorem properItems_iff {xs : List Json} : properItems xs = true ↔ ∀ x ∈ xs, x.proper = true := by
  induction xs with
  | nil => simp [properItems]
  | cons x xs ih => simp [properItems, ih]

theorem properFields_iff {fields : Fields} :
    properFields fields = true ↔ ∀ e ∈ fields, e.2.proper = true := by
  induction fields with
  | nil => simp [properFields]
  | cons e fields ih =>
    obtain ⟨k, v⟩ := e
    simp [properFields, ih]

@[simp] theorem proper_arr {xs : List Json} :
    (Json.arr xs).proper = true ↔ ∀ x ∈ xs, x.proper = true := by
  rw [proper, properItems_iff]

@[simp] theorem proper_obj {fields : Fields} :
    (Json.obj fields).proper = true ↔
      (fields.map Prod.fst).Nodup ∧ ∀ e ∈ fields, e.2.proper = true := by
  rw [proper, Bool.and_eq_true, properFields_iff, decide_eq_true_eq]

/-! ## Going through a value -/

/-- Induction over a value, with truth values and numbers taken together. -/
theorem valueInduction {P : Json → Prop} (null : P .null)
    (number : ∀ v q, v.quantity? = some q → P v) (str : ∀ s, P (.str s))
    (arr : ∀ xs, (∀ x ∈ xs, P x) → P (.arr xs))
    (obj : ∀ fields : Fields, (∀ e ∈ fields, P e.2) → P (.obj fields)) (v : Json) : P v :=
  @Json.rec P (fun xs => ∀ x ∈ xs, P x) (fun fields => ∀ e ∈ fields, P e.2) (fun e => P e.2)
    null (fun _ => number _ _ rfl) (fun _ => number _ _ rfl) (fun _ => number _ _ rfl) str arr obj
    (by simp) (fun _ _ hx hxs => List.forall_mem_cons.mpr ⟨hx, hxs⟩)
    (by simp) (fun _ _ he hes => List.forall_mem_cons.mpr ⟨he, hes⟩) (fun _ _ hv => hv) v

theorem sameValue_number {v w : Json} {q : Quantity} (h : v.quantity? = some q) :
    sameValue v w = sameQuantity q w := by
  cases v <;> cases h <;> simp [sameValue]

theorem order?_number {v w : Json} {q : Quantity} (h : v.quantity? = some q) :
    order? v w = orderQuantity? q w := by
  cases v <;> cases h <;> simp [order?]

/-! ## Values that mean the same -/

theorem sameQuantity_iff {q : Quantity} {w : Json} :
    sameQuantity q w = true ↔ ∃ r a, w.quantity? = some r ∧ q.magnitude? = some a ∧
      r.magnitude? = some a := by
  rw [sameQuantity]
  cases hw : w.quantity? with
  | none => simp
  | some r =>
    rw [beq_iff_eq, Quantity.compare?_eq_some]
    constructor
    · rintro ⟨a, b, ha, hb, rfl⟩
      exact ⟨r, a, rfl, ha, hb⟩
    · rintro ⟨r', a, hr, ha, hb⟩
      cases hr
      exact ⟨a, a, ha, hb, rfl⟩

theorem sameItems_iff {xs ys : List Json} :
    sameItems xs ys = true ↔ List.Forall₂ (fun x y => sameValue x y = true) xs ys := by
  induction xs generalizing ys with
  | nil => cases ys <;> simp [sameItems]
  | cons x xs ih => cases ys <;> simp [sameItems, ih]

theorem sameFields_iff {xs ys : Fields} :
    sameFields xs ys = true ↔
      ∀ e ∈ xs, ∃ w, ys.lookup e.1 = some w ∧ sameValue e.2 w = true := by
  induction xs with
  | nil => simp [sameFields]
  | cons e xs ih =>
    obtain ⟨k, v⟩ := e
    rw [sameFields, Bool.and_eq_true, ih, List.forall_mem_cons]
    refine and_congr_left fun _ => ?_
    cases ys.lookup k with
    | none => simp
    | some w => simp

theorem mem_of_lookup {fields : Fields} {k : String} {v : Json} (h : fields.lookup k = some v) :
    (k, v) ∈ fields := by
  obtain ⟨before, after, rfl, -⟩ := List.lookup_eq_some_iff.mp h
  simp

theorem lookup_of_mem {fields : Fields} (hkeys : (fields.map Prod.fst).Nodup) {k : String}
    {v : Json} (h : (k, v) ∈ fields) : fields.lookup k = some v := by
  induction fields with
  | nil => cases h
  | cons e fields ih =>
    obtain ⟨j, w⟩ := e
    rw [List.map_cons, List.nodup_cons] at hkeys
    rcases List.mem_cons.mp h with heq | hmem
    · cases heq
      exact List.lookup_cons_self
    · have hne : k ≠ j := fun hc => hkeys.1 (hc ▸ List.mem_map.mpr ⟨_, hmem, rfl⟩)
      rw [List.lookup_cons, beq_false_of_ne hne]
      exact ih hkeys.2 hmem

/-- Objects with as many entries have the same keys when one of them has all keys of the other. -/
theorem exists_entry_of_keys_subset {xs ys : Fields} (hxs : (xs.map Prod.fst).Nodup)
    (hlen : xs.length = ys.length) (hsub : xs.map Prod.fst ⊆ ys.map Prod.fst) {e : String × Json}
    (he : e ∈ ys) : ∃ v, (e.1, v) ∈ xs := by
  have hperm : (xs.map Prod.fst).Perm (ys.map Prod.fst) :=
    (List.subperm_of_subset hxs hsub).perm_of_length_le (by simp [hlen])
  have hkey : e.1 ∈ xs.map Prod.fst := hperm.mem_iff.mpr (List.mem_map_of_mem he)
  obtain ⟨⟨k, v⟩, hmem, hk⟩ := List.mem_map.mp hkey
  exact ⟨v, hk ▸ hmem⟩

theorem sameValue_obj {xs ys : Fields} :
    sameValue (.obj xs) (.obj ys) = true ↔ xs.length = ys.length ∧
      ∀ e ∈ xs, ∃ w, ys.lookup e.1 = some w ∧ sameValue e.2 w = true := by
  rw [sameValue, Bool.and_eq_true, sameFields_iff, beq_iff_eq]

/-- What means the same as an object is an object. -/
theorem exists_obj_of_sameValue {xs : Fields} {b : Json} (h : sameValue (.obj xs) b = true) :
    ∃ ys, b = .obj ys := by
  cases b <;> simp [sameValue] at h ⊢

theorem exists_arr_of_sameValue {xs : List Json} {b : Json} (h : sameValue (.arr xs) b = true) :
    ∃ ys, b = .arr ys ∧ List.Forall₂ (fun x y => sameValue x y = true) xs ys := by
  cases b <;> simp [sameValue] at h ⊢
  exact sameItems_iff.mp h

theorem exists_number_of_sameValue {a b : Json} {q : Quantity} (hq : a.quantity? = some q)
    (h : sameValue a b = true) :
    ∃ r c, b.quantity? = some r ∧ q.magnitude? = some c ∧ r.magnitude? = some c :=
  sameQuantity_iff.mp (sameValue_number hq ▸ h)

theorem sameValue_symm {a b : Json} (ha : a.proper = true) (hb : b.proper = true)
    (h : sameValue a b = true) : sameValue b a = true := by
  induction a using valueInduction generalizing b with
  | null => cases b <;> simp [sameValue] at h ⊢
  | number v q hq =>
    obtain ⟨r, c, hr, hc, hc'⟩ := exists_number_of_sameValue hq h
    rw [sameValue_number hr, sameQuantity_iff]
    exact ⟨q, c, hq, hc', hc⟩
  | str s =>
    cases b <;> simp [sameValue] at h ⊢
    exact h.symm
  | arr xs ih =>
    obtain ⟨ys, rfl, hall⟩ := exists_arr_of_sameValue h
    rw [proper_arr] at ha hb
    rw [sameValue, sameItems_iff, List.forall₂_iff_get] at *
    refine ⟨hall.1.symm, fun i hy hx => ?_⟩
    exact ih _ (List.get_mem _ _) (ha _ (List.get_mem _ _)) (hb _ (List.get_mem _ _))
      (hall.2 i hx hy)
  | obj xs ih =>
    obtain ⟨ys, rfl⟩ := exists_obj_of_sameValue h
    rw [proper_obj] at ha hb
    rw [sameValue_obj] at h ⊢
    obtain ⟨hlen, hall⟩ := h
    refine ⟨hlen.symm, fun e he => ?_⟩
    have hsub : xs.map Prod.fst ⊆ ys.map Prod.fst := by
      intro k hk
      obtain ⟨e', he', rfl⟩ := List.mem_map.mp hk
      obtain ⟨w, hw, -⟩ := hall e' he'
      exact List.mem_map.mpr ⟨_, mem_of_lookup hw, rfl⟩
    -- The entry of the first object under the same key is matched with `e` itself.
    obtain ⟨v, hv⟩ := exists_entry_of_keys_subset ha.1 hlen hsub he
    obtain ⟨w, hw, hsame⟩ := hall _ hv
    have hwe : w = e.2 := by
      rw [lookup_of_mem hb.1 he] at hw
      exact (Option.some.inj hw).symm
    rw [hwe] at hsame
    exact ⟨v, lookup_of_mem ha.1 hv, ih _ hv (ha.2 _ hv) (hb.2 _ he) hsame⟩

theorem sameValue_trans {a b c : Json} (hab : sameValue a b = true) (hbc : sameValue b c = true) :
    sameValue a c = true := by
  induction a using valueInduction generalizing b c with
  | null =>
    cases b <;> simp [sameValue] at hab
    exact hbc
  | number v q hq =>
    obtain ⟨r, m, hr, hm, hm'⟩ := exists_number_of_sameValue hq hab
    obtain ⟨t, n, ht, hn, hn'⟩ := exists_number_of_sameValue hr hbc
    rw [hm'] at hn
    cases hn
    rw [sameValue_number hq, sameQuantity_iff]
    exact ⟨t, m, ht, hm, hn'⟩
  | str s =>
    cases b <;> simp [sameValue] at hab
    rw [hab]
    exact hbc
  | arr xs ih =>
    obtain ⟨ys, rfl, hxy⟩ := exists_arr_of_sameValue hab
    obtain ⟨zs, rfl, hyz⟩ := exists_arr_of_sameValue hbc
    rw [sameValue, sameItems_iff]
    rw [List.forall₂_iff_get] at hxy hyz ⊢
    refine ⟨hxy.1.trans hyz.1, fun i hx hz => ?_⟩
    have hy : i < ys.length := hxy.1 ▸ hx
    exact ih _ (List.get_mem _ _) (hxy.2 i hx hy) (hyz.2 i hy hz)
  | obj xs ih =>
    obtain ⟨ys, rfl⟩ := exists_obj_of_sameValue hab
    obtain ⟨zs, rfl⟩ := exists_obj_of_sameValue hbc
    rw [sameValue_obj] at hab hbc ⊢
    refine ⟨hab.1.trans hbc.1, fun e he => ?_⟩
    obtain ⟨v, hv, hsame⟩ := hab.2 e he
    obtain ⟨w, hw, hsame'⟩ := hbc.2 _ (mem_of_lookup hv)
    exact ⟨w, hw, ih e he hsame hsame'⟩

theorem sameValue_comm {a b : Json} (ha : a.proper = true) (hb : b.proper = true) :
    sameValue a b = sameValue b a :=
  Bool.eq_iff_iff.mpr ⟨sameValue_symm ha hb, sameValue_symm hb ha⟩

theorem sameValue_congr_left {a b c : Json} (ha : a.proper = true) (hb : b.proper = true)
    (h : sameValue a b = true) : sameValue a c = sameValue b c :=
  Bool.eq_iff_iff.mpr
    ⟨fun hac => sameValue_trans (sameValue_symm ha hb h) hac, fun hbc => sameValue_trans h hbc⟩

/-! ## The order of values -/

theorem orderQuantity?_eq_some {q : Quantity} {w : Json} {o : Ordering} :
    orderQuantity? q w = some o ↔ ∃ r a b, w.quantity? = some r ∧ q.magnitude? = some a ∧
      r.magnitude? = some b ∧ o.Compares a b := by
  rw [orderQuantity?]
  cases hw : w.quantity? with
  | none => simp
  | some r => simp [Quantity.compare?_eq_some]

theorem exists_number_of_order? {a b : Json} {q : Quantity} {o : Ordering}
    (hq : a.quantity? = some q) (h : order? a b = some o) :
    ∃ r m n, b.quantity? = some r ∧ q.magnitude? = some m ∧ r.magnitude? = some n ∧
      o.Compares m n :=
  orderQuantity?_eq_some.mp (order?_number hq ▸ h)

theorem exists_str_of_order? {s : String} {b : Json} {o : Ordering}
    (h : order? (.str s) b = some o) : ∃ t, b = .str t ∧ o = compareText s t := by
  cases b <;> simp [order?] at h ⊢
  exact h.symm

theorem exists_arr_of_order? {xs : List Json} {b : Json} {o : Ordering}
    (h : order? (.arr xs) b = some o) : ∃ ys, b = .arr ys ∧ orderItems? xs ys = some o := by
  cases b <;> simp [order?] at h ⊢
  exact h

/-- Values that mean the same come neither before nor after each other. -/
theorem eq_of_sameValue {a b : Json} {o : Ordering} (hsame : sameValue a b = true)
    (h : order? a b = some o) : o = .eq := by
  induction a using valueInduction generalizing b o with
  | null => simp [order?] at h
  | obj xs => simp [order?] at h
  | number v q hq =>
    obtain ⟨r, m, n, hr, hm, hn, ho⟩ := exists_number_of_order? hq h
    obtain ⟨r', c, hr', hc, hc'⟩ := exists_number_of_sameValue hq hsame
    rw [hr] at hr'
    cases hr'
    rw [hm] at hc
    rw [hn] at hc'
    cases hc
    cases hc'
    exact ho.eq_eq.mpr rfl
  | str s =>
    obtain ⟨t, rfl, rfl⟩ := exists_str_of_order? h
    rw [sameValue, beq_iff_eq] at hsame
    exact (compareText_compares s t).eq_eq.mpr (congrArg Text.codes hsame)
  | arr xs ih =>
    obtain ⟨ys, rfl, hitems⟩ := exists_arr_of_order? h
    rw [sameValue] at hsame
    clear h
    induction xs generalizing ys with
    | nil =>
      cases ys with
      | nil => simpa [orderItems?] using hitems.symm
      | cons y ys => simp [sameItems] at hsame
    | cons x xs ihxs =>
      cases ys with
      | nil => simp [sameItems] at hsame
      | cons y ys =>
        rw [sameItems, Bool.and_eq_true] at hsame
        rw [orderItems?, if_pos hsame.1] at hitems
        exact ihxs (fun z hz => ih z (List.mem_cons_of_mem _ hz)) ys hitems hsame.2

/-- Values that come neither before nor after each other mean the same. -/
theorem sameValue_of_order? {a b : Json} (h : order? a b = some .eq) : sameValue a b = true := by
  induction a using valueInduction generalizing b with
  | null => simp [order?] at h
  | obj xs => simp [order?] at h
  | number v q hq =>
    obtain ⟨r, m, n, hr, hm, hn, ho⟩ := exists_number_of_order? hq h
    cases ho.eq_eq.mp rfl
    rw [sameValue_number hq, sameQuantity_iff]
    exact ⟨r, m, hr, hm, hn⟩
  | str s =>
    obtain ⟨t, rfl, ho⟩ := exists_str_of_order? h
    have hcodes := (compareText_compares s t).eq_eq.mp ho.symm
    rw [sameValue, beq_iff_eq]
    exact Text.codes_injective hcodes
  | arr xs ih =>
    obtain ⟨ys, rfl, hitems⟩ := exists_arr_of_order? h
    rw [sameValue]
    clear h
    induction xs generalizing ys with
    | nil => cases ys <;> simp [orderItems?, sameItems] at hitems ⊢
    | cons x xs ihxs =>
      cases ys with
      | nil => simp [orderItems?] at hitems
      | cons y ys =>
        rw [sameItems, Bool.and_eq_true]
        rw [orderItems?] at hitems
        split at hitems
        · exact ⟨‹_›, ihxs (fun z hz => ih z (List.mem_cons_of_mem _ hz)) ys hitems⟩
        · rename_i hne
          exact absurd (ih x List.mem_cons_self hitems) hne

/-- Exchanging two values turns their order around. -/
theorem order?_swap {a b : Json} {o : Ordering} (ha : a.proper = true) (hb : b.proper = true)
    (h : order? a b = some o) : order? b a = some o.swap := by
  induction a using valueInduction generalizing b o with
  | null => simp [order?] at h
  | obj xs => simp [order?] at h
  | number v q hq =>
    obtain ⟨r, m, n, hr, hm, hn, ho⟩ := exists_number_of_order? hq h
    rw [order?_number hr, orderQuantity?_eq_some]
    exact ⟨q, n, m, hq, hn, hm, Ordering.compares_swap.mpr ho⟩
  | str s =>
    obtain ⟨t, rfl, rfl⟩ := exists_str_of_order? h
    rw [order?, compareText_swap s t]
  | arr xs ih =>
    obtain ⟨ys, rfl, hitems⟩ := exists_arr_of_order? h
    rw [proper_arr] at ha hb
    rw [order?]
    clear h
    induction xs generalizing ys with
    | nil =>
      cases ys <;> simp only [orderItems?, Option.some.injEq] at hitems ⊢ <;> rw [← hitems] <;> rfl
    | cons x xs ihxs =>
      cases ys with
      | nil =>
        simp only [orderItems?, Option.some.injEq] at hitems ⊢
        rw [← hitems]
        rfl
      | cons y ys =>
        obtain ⟨hx, hxs⟩ := List.forall_mem_cons.mp ha
        obtain ⟨hy, hys⟩ := List.forall_mem_cons.mp hb
        rw [orderItems?] at hitems ⊢
        rw [sameValue_comm hy hx]
        split at hitems
        · rename_i hsame
          rw [if_pos hsame]
          exact ihxs (fun z hz => ih z (List.mem_cons_of_mem _ hz)) hxs ys hitems hys
        · rename_i hne
          rw [if_neg hne]
          exact ih x List.mem_cons_self hx hy hitems

theorem order?_isSome_comm {a b : Json} (ha : a.proper = true) (hb : b.proper = true)
    (h : (order? a b).isSome = true) : (order? b a).isSome = true := by
  obtain ⟨o, ho⟩ := Option.isSome_iff_exists.mp h
  rw [order?_swap ha hb ho]
  rfl

/-- Values that mean the same have the same order with any third value. -/
theorem order?_congr_left {a b c : Json} (ha : a.proper = true) (hb : b.proper = true)
    (h : sameValue a b = true) : order? a c = order? b c := by
  induction a using valueInduction generalizing b c with
  | null => cases b <;> simp [sameValue] at h; rfl
  | obj xs =>
    obtain ⟨ys, rfl⟩ := exists_obj_of_sameValue h
    rw [order?, order?]
  | number v q hq =>
    obtain ⟨r, m, hr, hm, hm'⟩ := exists_number_of_sameValue hq h
    rw [order?_number hq, order?_number hr, orderQuantity?, orderQuantity?]
    cases c.quantity? with
    | none => rfl
    | some t => simp only [Quantity.compare?_eq, hm, hm']
  | str s =>
    cases b <;> simp [sameValue] at h
    rw [h]
  | arr xs ih =>
    obtain ⟨ys, rfl, hall⟩ := exists_arr_of_sameValue h
    rw [proper_arr] at ha hb
    cases c with
    | arr zs =>
      rw [order?, order?]
      clear h
      induction hall generalizing zs with
      | nil => rfl
      | @cons x y xs ys hxy hrest ihrest =>
        obtain ⟨hx, hxs⟩ := List.forall_mem_cons.mp ha
        obtain ⟨hy, hys⟩ := List.forall_mem_cons.mp hb
        cases zs with
        | nil => rfl
        | cons z zs =>
          rw [orderItems?, orderItems?, sameValue_congr_left hx hy hxy,
            ih x List.mem_cons_self hx hy hxy,
            ihrest (fun u hu => ih u (List.mem_cons_of_mem _ hu)) hxs hys]
    | _ => rfl

theorem order?_congr_right {a b c : Json} {o : Ordering} (ha : a.proper = true)
    (hb : b.proper = true) (hc : c.proper = true) (h : sameValue b c = true)
    (hab : order? a b = some o) : order? a c = some o := by
  have hca : order? c a = some o.swap :=
    order?_congr_left hb hc h ▸ order?_swap ha hb hab
  simpa using order?_swap hc ha hca

theorem lt_of_not_sameValue {a b : Json} {o : Ordering} (h : order? a b = some o)
    (hne : ¬ sameValue a b = true) (ho : o ≠ .gt) : o = .lt := by
  cases o with
  | lt => rfl
  | eq => exact absurd (sameValue_of_order? h) hne
  | gt => exact absurd rfl ho

/-- Lists whose items are ordered transitively are so too. -/
theorem orderItems?_trans {xs ys zs : List Json} {o o' : Ordering}
    (hxs : ∀ x ∈ xs, x.proper = true) (hys : ∀ y ∈ ys, y.proper = true)
    (hzs : ∀ z ∈ zs, z.proper = true)
    (hitem : ∀ x ∈ xs, ∀ y ∈ ys, ∀ z ∈ zs, order? x y = some .lt → order? y z = some .lt →
      order? x z = some .lt)
    (hxy : orderItems? xs ys = some o) (hyz : orderItems? ys zs = some o')
    (ho : o ≠ .gt) (ho' : o' ≠ .gt) : orderItems? xs zs = some (o.then o') := by
  induction xs generalizing ys zs with
  | nil =>
    cases ys with
    | nil =>
      cases hxy
      exact hyz
    | cons y ys =>
      cases hxy
      cases zs with
      | nil =>
        cases hyz
        exact absurd rfl ho'
      | cons z zs => rfl
  | cons x xs ih =>
    cases ys with
    | nil =>
      cases hxy
      exact absurd rfl ho
    | cons y ys =>
      cases zs with
      | nil =>
        cases hyz
        exact absurd rfl ho'
      | cons z zs =>
        obtain ⟨hx, hxs⟩ := List.forall_mem_cons.mp hxs
        obtain ⟨hy, hys⟩ := List.forall_mem_cons.mp hys
        obtain ⟨hz, hzs⟩ := List.forall_mem_cons.mp hzs
        rw [orderItems?] at hxy hyz ⊢
        -- The first items decide unless all three mean the same.
        by_cases sxy : sameValue x y = true
        · rw [if_pos sxy] at hxy
          rw [sameValue_congr_left hx hy sxy, order?_congr_left hx hy sxy]
          by_cases syz : sameValue y z = true
          · rw [if_pos syz] at hyz ⊢
            refine ih hxs hys hzs (fun u hu v hv w hw => ?_) hxy hyz
            exact hitem u (List.mem_cons_of_mem _ hu) v (List.mem_cons_of_mem _ hv)
              w (List.mem_cons_of_mem _ hw)
          · rw [if_neg syz] at hyz ⊢
            rw [hyz, lt_of_not_sameValue hyz syz ho']
            cases o with
            | gt => exact absurd rfl ho
            | lt => rfl
            | eq => rfl
        · rw [if_neg sxy] at hxy
          cases lt_of_not_sameValue hxy sxy ho
          have hxz : order? x z = some .lt := by
            by_cases syz : sameValue y z = true
            · exact order?_congr_right hx hy hz syz hxy
            · rw [if_neg syz] at hyz
              cases lt_of_not_sameValue hyz syz ho'
              exact hitem x List.mem_cons_self y List.mem_cons_self z List.mem_cons_self hxy hyz
          have sxz : ¬ sameValue x z = true := fun hs => nomatch eq_of_sameValue hs hxz
          rw [if_neg sxz, hxz]
          rfl

/-- The order of values is transitive. -/
theorem order?_trans {a b c : Json} {o o' : Ordering} (ha : a.proper = true)
    (hb : b.proper = true) (hc : c.proper = true) (hab : order? a b = some o)
    (hbc : order? b c = some o') (ho : o ≠ .gt) (ho' : o' ≠ .gt) :
    order? a c = some (o.then o') := by
  induction a using valueInduction generalizing b c o o' with
  | null => simp [order?] at hab
  | obj xs => simp [order?] at hab
  | number v q hq =>
    obtain ⟨r, m, n, hr, hm, hn, hmn⟩ := exists_number_of_order? hq hab
    obtain ⟨t, n', p, ht, hn', hp, hnp⟩ := exists_number_of_order? hr hbc
    rw [hn] at hn'
    cases hn'
    rw [order?_number hq, orderQuantity?_eq_some]
    exact ⟨t, m, p, ht, hm, hp, compares_then hmn hnp ho ho'⟩
  | str s =>
    obtain ⟨t, rfl, rfl⟩ := exists_str_of_order? hab
    obtain ⟨u, rfl, rfl⟩ := exists_str_of_order? hbc
    rw [order?, compareText_trans ho ho']
  | arr xs ih =>
    obtain ⟨ys, rfl, hxy⟩ := exists_arr_of_order? hab
    obtain ⟨zs, rfl, hyz⟩ := exists_arr_of_order? hbc
    rw [proper_arr] at ha hb hc
    rw [order?]
    refine orderItems?_trans ha hb hc (fun x hx y hy z hz h h' => ?_) hxy hyz ho ho'
    exact ih x hx (ha x hx) (hb y hy) (hc z hz) h h' nofun nofun

end Remedy.Json
