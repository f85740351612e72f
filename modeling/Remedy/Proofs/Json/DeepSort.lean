import Remedy.Proofs.Action
import Remedy.Proofs.Json.Order
import Remedy.Store.Basic

/-!
# Sorting values throughout

Sorting a value throughout gives a value that is sorted: doing it again changes nothing. A list is
sorted by comparisons that fail where two items have no order. Not every two items are compared, but the
neighbours in the result were, and the order is transitive: a list can be sorted exactly if every two
items have an order, so that it does not matter in which order they stand. Variables are stored in
this form, so comparing stored variables again leaves them as they are.

Main results:

* `sortItems_ok_iff`: a list can be sorted exactly if every two items have an order.
* `sortItems_sorted`: a sorted list is left as it is.
* `deepSort_idem`: a value sorted throughout is left as it is.
* `comparedVars_idem`: stored variables are their own compared form.
-/

namespace Remedy.Json

/-! ## Comparing -/

/-- The values have an order, and the first does not come after the second. -/
def Precedes (a b : Json) : Prop :=
  ∃ o, order? a b = some o ∧ o ≠ .gt

/-- Two values that have an order, whichever of them is named first. -/
def Ordered (a b : Json) : Prop :=
  (order? a b).isSome = true ∧ (order? b a).isSome = true

theorem Precedes.trans {a b c : Json} (ha : a.proper = true) (hb : b.proper = true)
    (hc : c.proper = true) (hab : Precedes a b) (hbc : Precedes b c) : Precedes a c := by
  obtain ⟨o, ho, hogt⟩ := hab
  obtain ⟨o', ho', hogt'⟩ := hbc
  refine ⟨o.then o', order?_trans ha hb hc ho ho' hogt hogt', ?_⟩
  cases o with
  | lt => nofun
  | eq => exact hogt'
  | gt => exact absurd rfl hogt

theorem Precedes.ordered {a b : Json} (ha : a.proper = true) (hb : b.proper = true)
    (h : Precedes a b) : Ordered a b := by
  obtain ⟨o, ho, -⟩ := h
  have hsome : (order? a b).isSome = true := by rw [ho]; rfl
  exact ⟨hsome, order?_isSome_comm ha hb hsome⟩

theorem exists_less_of_ordered {a b : Json} (h : Ordered a b) : ∃ r, less a b = .ok r := by
  obtain ⟨o, ho⟩ := Option.isSome_iff_exists.mp h.1
  exact ⟨o == .lt, by rw [less, ho]⟩

theorem precedes_of_less {a b : Json} (h : less a b = .ok true) : Precedes a b := by
  rw [less] at h
  cases ho : order? a b with
  | none => rw [ho] at h; cases h
  | some o =>
    rw [ho] at h
    have hlt : o = .lt := by simpa using h
    exact ⟨o, ho, hlt ▸ nofun⟩

theorem less_eq_false_iff {a b : Json} (ha : a.proper = true) (hb : b.proper = true) :
    less a b = .ok false ↔ Precedes b a := by
  constructor
  · intro h
    rw [less] at h
    cases ho : order? a b with
    | none => rw [ho] at h; cases h
    | some o =>
      rw [ho] at h
      refine ⟨o.swap, order?_swap ha hb ho, ?_⟩
      cases o <;> simp_all
  · rintro ⟨o, ho, hogt⟩
    rw [less, order?_swap hb ha ho]
    cases o <;> simp_all

/-! ## Lists -/

/-- A value is put into a list by comparing it with some of the items: the place is before an item
that it comes before, or behind one that it does not come before. -/
inductive Inserted (x : Json) : List Json → List Json → Prop
  | alone : Inserted x [] [x]
  | before {y : Json} {front back us : List Json} (hless : less x y = .ok true)
      (inserted : Inserted x front us) : Inserted x (front ++ y :: back) (us ++ y :: back)
  | behind {y : Json} {front back us : List Json} (hless : less x y = .ok false)
      (inserted : Inserted x back us) : Inserted x (front ++ y :: back) (front ++ y :: us)

theorem eq_nil_of_drop_half {ys : List Json} (h : ys.drop (ys.length / 2) = []) : ys = [] := by
  have hlen : ys.length ≤ ys.length / 2 := List.drop_eq_nil_iff.mp h
  exact List.length_eq_zero_iff.mp (by omega)

theorem inserted_of_insertSorted {x : Json} {ys zs : List Json} (h : insertSorted x ys = .ok zs) :
    Inserted x ys zs := by
  fun_induction insertSorted x ys generalizing zs with
  | case1 ys hnil =>
    cases h
    rw [eq_nil_of_drop_half hnil]
    exact .alone
  | case2 ys y back hmid _ ihBefore ihBehind =>
    obtain ⟨comes, hless, h⟩ := Outcome.bind_eq_ok.mp h
    rw [← List.take_append_drop (ys.length / 2) ys, hmid]
    cases comes with
    | true =>
      obtain ⟨us, hus, heq⟩ := Outcome.bind_eq_ok.mp h
      cases heq
      exact .before hless (ihBefore hus)
    | false =>
      obtain ⟨us, hus, heq⟩ := Outcome.bind_eq_ok.mp h
      cases heq
      exact .behind hless (ihBehind hus)

theorem Inserted.perm {x : Json} {ys zs : List Json} (h : Inserted x ys zs) :
    zs.Perm (x :: ys) := by
  induction h with
  | alone => rfl
  | before _ _ ih => exact ih.append_right _
  | @behind y front back us _ _ ih =>
    calc (front ++ y :: us).Perm (front ++ y :: x :: back) := (ih.cons y).append_left front
      _ = (front ++ [y]) ++ x :: back := by rw [List.append_assoc, List.singleton_append]
      _ |>.Perm (x :: ((front ++ [y]) ++ back)) := List.perm_middle
      _ = x :: (front ++ y :: back) := by rw [List.append_assoc, List.singleton_append]

/-- A value that is put into a sorted list leaves it sorted. It was compared with its neighbours, and
all other items have an order with it because they have one with a neighbour. -/
theorem Inserted.pairwise {x : Json} {ys zs : List Json} (hx : x.proper = true)
    (hys : ∀ y ∈ ys, y.proper = true) (h : Inserted x ys zs) (hsorted : ys.Pairwise Precedes) :
    zs.Pairwise Precedes := by
  induction h with
  | alone => exact List.pairwise_singleton _ _
  | @before y front back us hless inserted ih =>
    rw [List.forall_mem_append, List.forall_mem_cons] at hys
    obtain ⟨hfront, hback, hcross⟩ := List.pairwise_append.mp hsorted
    refine List.pairwise_append.mpr ⟨ih hys.1 hfront, hback, fun a ha b hb => ?_⟩
    rcases List.mem_cons.mp (inserted.perm.mem_iff.mp ha) with rfl | ha
    · have hxy : Precedes a y := precedes_of_less hless
      rcases List.mem_cons.mp hb with rfl | hb
      · exact hxy
      · exact hxy.trans hx hys.2.1 (hys.2.2 b hb) ((List.pairwise_cons.mp hback).1 b hb)
    · exact hcross a ha b hb
  | @behind y front back us hless inserted ih =>
    rw [List.forall_mem_append, List.forall_mem_cons] at hys
    obtain ⟨hfront, hback, hcross⟩ := List.pairwise_append.mp hsorted
    obtain ⟨hy, hback⟩ := List.pairwise_cons.mp hback
    have hyx : Precedes y x := (less_eq_false_iff hx hys.2.1).mp hless
    refine List.pairwise_append.mpr
      ⟨hfront, List.pairwise_cons.mpr ⟨fun b hb => ?_, ih hys.2.2 hback⟩, fun a ha b hb => ?_⟩
    · rcases List.mem_cons.mp (inserted.perm.mem_iff.mp hb) with rfl | hb
      · exact hyx
      · exact hy b hb
    · rcases List.mem_cons.mp hb with rfl | hb
      · exact hcross a ha b List.mem_cons_self
      · rcases List.mem_cons.mp (inserted.perm.mem_iff.mp hb) with rfl | hb
        · exact (hcross a ha y List.mem_cons_self).trans (hys.1 a ha) hys.2.1 hx hyx
        · exact hcross a ha b (List.mem_cons_of_mem _ hb)

theorem exists_insertSorted {x : Json} {ys : List Json} (h : ∀ y ∈ ys, Ordered x y) :
    ∃ zs, insertSorted x ys = .ok zs := by
  fun_induction insertSorted x ys with
  | case1 => exact ⟨[x], rfl⟩
  | case2 ys y back hmid _ ihBefore ihBehind =>
    have hback : ∀ b ∈ y :: back, Ordered x b :=
      fun b hb => h b (List.mem_of_mem_drop (hmid.symm ▸ hb))
    obtain ⟨comes, hless⟩ := exists_less_of_ordered (hback y List.mem_cons_self)
    cases comes with
    | true =>
      obtain ⟨us, hus⟩ := ihBefore fun a ha => h a (List.mem_of_mem_take ha)
      exact ⟨_, Outcome.bind_eq_ok.mpr ⟨true, hless, Outcome.bind_eq_ok.mpr ⟨us, hus, rfl⟩⟩⟩
    | false =>
      obtain ⟨us, hus⟩ := ihBehind fun b hb => hback b (List.mem_cons_of_mem _ hb)
      exact ⟨_, Outcome.bind_eq_ok.mpr ⟨false, hless, Outcome.bind_eq_ok.mpr ⟨us, hus, rfl⟩⟩⟩

/-- A value that no item comes after is put at the end. -/
theorem insertSorted_last {x : Json} {ys : List Json} (hx : x.proper = true)
    (hys : ∀ y ∈ ys, y.proper = true) (h : ∀ y ∈ ys, Precedes y x) :
    insertSorted x ys = .ok (ys ++ [x]) := by
  fun_induction insertSorted x ys with
  | case1 ys hnil => rw [eq_nil_of_drop_half hnil, List.nil_append]
  | case2 ys y back hmid _ ihBefore ihBehind =>
    have hmem : ∀ b ∈ y :: back, b ∈ ys := fun b hb => List.mem_of_mem_drop (hmid.symm ▸ hb)
    have hy := hmem y List.mem_cons_self
    have hless := (less_eq_false_iff hx (hys y hy)).mpr (h y hy)
    have hrest := ihBehind (fun b hb => hys b (hmem b (List.mem_cons_of_mem _ hb)))
      (fun b hb => h b (hmem b (List.mem_cons_of_mem _ hb)))
    refine Outcome.bind_eq_ok.mpr ⟨false, hless, Outcome.bind_eq_ok.mpr ⟨_, hrest, ?_⟩⟩
    rw [← List.cons_append, ← List.append_assoc, ← hmid, List.take_append_drop]
    rfl

theorem sortItems_concat (xs : List Json) (x : Json) :
    sortItems (xs ++ [x]) = sortItems xs >>= insertSorted x := by
  rw [sortItems, List.foldlM_append]
  exact bind_congr fun sorted => bind_pure _

theorem sortItems_perm {xs ys : List Json} (h : sortItems xs = .ok ys) : ys.Perm xs := by
  induction xs using List.reverseRecOn generalizing ys with
  | nil =>
    cases h
    rfl
  | append_singleton xs x ih =>
    rw [sortItems_concat] at h
    obtain ⟨sorted, hsorted, hinsert⟩ := Outcome.bind_eq_ok.mp h
    exact ((inserted_of_insertSorted hinsert).perm.trans ((ih hsorted).cons x)).trans
      (List.perm_append_singleton x xs).symm

/-- Sorting a list leaves no item before one that comes before it. -/
theorem sortItems_pairwise {xs ys : List Json} (hp : ∀ x ∈ xs, x.proper = true)
    (h : sortItems xs = .ok ys) : ys.Pairwise Precedes := by
  induction xs using List.reverseRecOn generalizing ys with
  | nil =>
    cases h
    exact .nil
  | append_singleton xs x ih =>
    rw [sortItems_concat] at h
    obtain ⟨sorted, hsorted, hinsert⟩ := Outcome.bind_eq_ok.mp h
    rw [List.forall_mem_append, List.forall_mem_singleton] at hp
    refine (inserted_of_insertSorted hinsert).pairwise hp.2 (fun y hy => ?_) (ih hp.1 hsorted)
    exact hp.1 y ((sortItems_perm hsorted).mem_iff.mp hy)

/-- A list can be sorted exactly if every two of its items have an order, though not every two of them
are compared. -/
theorem sortItems_ok_iff {xs : List Json} (hp : ∀ x ∈ xs, x.proper = true) :
    (∃ ys, sortItems xs = .ok ys) ↔ xs.Pairwise Ordered := by
  constructor
  · rintro ⟨ys, h⟩
    have hperm := sortItems_perm h
    have hordered : ys.Pairwise Ordered := (sortItems_pairwise hp h).imp_of_mem fun ha hb hab =>
      hab.ordered (hp _ (hperm.mem_iff.mp ha)) (hp _ (hperm.mem_iff.mp hb))
    exact (hperm.pairwise_iff And.symm).mp hordered
  · intro h
    induction xs using List.reverseRecOn with
    | nil => exact ⟨[], rfl⟩
    | append_singleton xs x ih =>
      rw [List.forall_mem_append] at hp
      obtain ⟨hxs, -, hx⟩ := List.pairwise_append.mp h
      obtain ⟨sorted, hsorted⟩ := ih hp.1 hxs
      have hordered : ∀ y ∈ sorted, Ordered x y := fun y hy =>
        (hx y ((sortItems_perm hsorted).mem_iff.mp hy) x List.mem_cons_self).symm
      obtain ⟨zs, hzs⟩ := exists_insertSorted hordered
      rw [sortItems_concat]
      exact ⟨zs, Outcome.bind_eq_ok.mpr ⟨sorted, hsorted, hzs⟩⟩

theorem sortItems_of_pairwise {xs : List Json} (hp : ∀ x ∈ xs, x.proper = true)
    (h : xs.Pairwise Precedes) : sortItems xs = .ok xs := by
  induction xs using List.reverseRecOn with
  | nil => rfl
  | append_singleton xs x ih =>
    rw [List.forall_mem_append, List.forall_mem_singleton] at hp
    obtain ⟨hxs, -, hx⟩ := List.pairwise_append.mp h
    rw [sortItems_concat, ih hp.1 hxs]
    exact insertSorted_last hp.2 hp.1 fun y hy => hx y hy x List.mem_cons_self

/-- A sorted list is left as it is. -/
theorem sortItems_sorted {xs ys : List Json} (hp : ∀ x ∈ xs, x.proper = true)
    (h : sortItems xs = .ok ys) : sortItems ys = .ok ys :=
  sortItems_of_pairwise (fun y hy => hp y ((sortItems_perm h).mem_iff.mp hy))
    (sortItems_pairwise hp h)

/-! ## Entries -/

theorem sortFields_perm (fields : Fields) : (sortFields fields).Perm fields :=
  List.mergeSort_perm _ _

theorem pairwise_sortFields (fields : Fields) :
    (sortFields fields).Pairwise fun a b => Text.precedes a.1 b.1 = true := by
  refine List.pairwise_mergeSort (fun a b c => ?_) (fun a b => ?_) _
  · rw [Text.precedes_iff, Text.precedes_iff, Text.precedes_iff]
    exact le_trans
  · rw [Bool.or_eq_true, Text.precedes_iff, Text.precedes_iff]
    exact le_total _ _

theorem sortFields_idem (fields : Fields) : sortFields (sortFields fields) = sortFields fields :=
  List.mergeSort_of_pairwise (pairwise_sortFields fields)

theorem deepSortItems_eq (xs : List Json) : deepSortItems xs = xs.mapM deepSort := by
  induction xs with
  | nil => rfl
  | cons x xs ih => rw [deepSortItems, ih, List.mapM_cons]

/-- Sorts the value of an entry throughout. -/
def deepSortEntry (e : String × Json) : Outcome (String × Json) :=
  (deepSort e.2).map (e.1, ·)

theorem deepSortFields_eq (fields : Fields) : deepSortFields fields = fields.mapM deepSortEntry := by
  induction fields with
  | nil => rfl
  | cons e fields ih =>
    obtain ⟨k, v⟩ := e
    rw [deepSortFields, ih, List.mapM_cons, deepSortEntry]
    cases deepSort v <;> rfl

theorem deepSortEntry_eq_ok {e e' : String × Json} :
    deepSortEntry e = .ok e' ↔ e'.1 = e.1 ∧ deepSort e.2 = .ok e'.2 := by
  obtain ⟨k', v'⟩ := e'
  rw [deepSortEntry, Outcome.map_eq_ok]
  constructor
  · rintro ⟨w, hw, heq⟩
    cases heq
    exact ⟨rfl, hw⟩
  · rintro ⟨hk, hv⟩
    exact ⟨v', hv, Prod.ext hk.symm rfl⟩

/-- Sorting entries throughout keeps their keys. -/
theorem keys_of_deepSortFields {fields sorted : Fields}
    (h : deepSortFields fields = .ok sorted) : sorted.map Prod.fst = fields.map Prod.fst := by
  rw [deepSortFields_eq, Outcome.mapM_eq_ok] at h
  induction h with
  | nil => rfl
  | cons he _ ih => rw [List.map_cons, List.map_cons, ih, (deepSortEntry_eq_ok.mp he).1]

/-- A list in which every item is sorted throughout is left as it is. -/
theorem mapM_eq_self {α : Type} {f : α → Outcome α} {xs : List α} (h : ∀ x ∈ xs, f x = .ok x) :
    xs.mapM f = .ok xs :=
  Outcome.mapM_eq_ok.mpr (List.forall₂_same.mpr h)

/-! ## Values -/

theorem deepSort_arr {xs : List Json} {w : Json} (h : deepSort (.arr xs) = .ok w) :
    ∃ ys zs, xs.mapM deepSort = .ok ys ∧ sortItems ys = .ok zs ∧ w = .arr zs := by
  rw [deepSort, deepSortItems_eq] at h
  obtain ⟨ys, hys, hrest⟩ := Outcome.bind_eq_ok.mp h
  obtain ⟨zs, hzs, hw⟩ := Outcome.bind_eq_ok.mp hrest
  cases hw
  exact ⟨ys, zs, hys, hzs, rfl⟩

theorem deepSort_obj {fields : Fields} {w : Json} (h : deepSort (.obj fields) = .ok w) :
    ∃ sorted, deepSortFields fields = .ok sorted ∧ w = .obj (sortFields sorted) := by
  rw [deepSort] at h
  obtain ⟨sorted, hsorted, hw⟩ := Outcome.bind_eq_ok.mp h
  cases hw
  exact ⟨sorted, hsorted, rfl⟩

theorem deepSort_number {v : Json} {q : Quantity} (h : v.quantity? = some q) :
    deepSort v = .ok v := by
  cases v <;> first | rfl | cases h

/-- Entries that are sorted throughout have no key twice, and neither has any value in them. -/
theorem proper_sorted {fields sorted : Fields} (hkeys : (fields.map Prod.fst).Nodup)
    (hvalues : ∀ e ∈ fields, ∀ w, deepSort e.2 = .ok w → w.proper = true)
    (h : deepSortFields fields = .ok sorted) :
    (Json.obj (sortFields sorted)).proper = true := by
  have hperm := sortFields_perm sorted
  rw [proper_obj]
  refine ⟨?_, fun e he => ?_⟩
  · rw [(hperm.map Prod.fst).nodup_iff, keys_of_deepSortFields h]
    exact hkeys
  · rw [deepSortFields_eq] at h
    obtain ⟨e', he', hentry⟩ := (Outcome.mem_of_mapM_eq_ok h).mp (hperm.mem_iff.mp he)
    exact hvalues e' he' e.2 (deepSortEntry_eq_ok.mp hentry).2

theorem proper_of_deepSort {v w : Json} (hp : v.proper = true) (h : deepSort v = .ok w) :
    w.proper = true := by
  induction v using valueInduction generalizing w with
  | null =>
    cases h
    rfl
  | number v q hq =>
    rw [deepSort_number hq] at h
    cases h
    exact hp
  | str s =>
    cases h
    rfl
  | arr xs ih =>
    obtain ⟨ys, zs, hys, hzs, rfl⟩ := deepSort_arr h
    rw [proper_arr] at hp ⊢
    intro z hz
    have hmem : z ∈ ys := (sortItems_perm hzs).mem_iff.mp hz
    obtain ⟨x, hx, hsort⟩ := (Outcome.mem_of_mapM_eq_ok hys).mp hmem
    exact ih x hx (hp x hx) hsort
  | obj fields ih =>
    obtain ⟨sorted, hsorted, rfl⟩ := deepSort_obj h
    rw [proper_obj] at hp
    exact proper_sorted hp.1 (fun e he w hw => ih e he (hp.2 e he) hw) hsorted

/-- Entries whose values are sorted throughout are left as they are once they stand in order. -/
theorem deepSortFields_sorted {fields sorted : Fields}
    (hvalues : ∀ e ∈ fields, ∀ w, deepSort e.2 = .ok w → deepSort w = .ok w)
    (h : deepSortFields fields = .ok sorted) :
    deepSortFields (sortFields sorted) = .ok (sortFields sorted) := by
  rw [deepSortFields_eq] at h ⊢
  refine mapM_eq_self fun e he => ?_
  have hmem : e ∈ sorted := (sortFields_perm sorted).mem_iff.mp he
  obtain ⟨e', he', hentry⟩ := (Outcome.mem_of_mapM_eq_ok h).mp hmem
  exact deepSortEntry_eq_ok.mpr ⟨rfl, hvalues e' he' e.2 (deepSortEntry_eq_ok.mp hentry).2⟩

/-- A value sorted throughout is left as it is. -/
theorem deepSort_idem {v w : Json} (hp : v.proper = true) (h : deepSort v = .ok w) :
    deepSort w = .ok w := by
  induction v using valueInduction generalizing w with
  | null =>
    cases h
    rfl
  | number v q hq =>
    rw [deepSort_number hq] at h
    cases h
    exact deepSort_number hq
  | str s =>
    cases h
    rfl
  | arr xs ih =>
    obtain ⟨ys, zs, hys, hzs, rfl⟩ := deepSort_arr h
    rw [proper_arr] at hp
    have hitem : ∀ y ∈ ys, y.proper = true ∧ deepSort y = .ok y := by
      intro y hy
      obtain ⟨x, hx, hsort⟩ := (Outcome.mem_of_mapM_eq_ok hys).mp hy
      exact ⟨proper_of_deepSort (hp x hx) hsort, ih x hx (hp x hx) hsort⟩
    have hsame : zs.mapM deepSort = .ok zs :=
      mapM_eq_self fun z hz => (hitem z ((sortItems_perm hzs).mem_iff.mp hz)).2
    have hsorted := sortItems_sorted (fun y hy => (hitem y hy).1) hzs
    rw [deepSort, deepSortItems_eq, hsame]
    exact Outcome.bind_eq_ok.mpr ⟨zs, rfl, Outcome.bind_eq_ok.mpr ⟨zs, hsorted, rfl⟩⟩
  | obj fields ih =>
    obtain ⟨sorted, hsorted, rfl⟩ := deepSort_obj h
    rw [proper_obj] at hp
    have hsame := deepSortFields_sorted (fun e he w hw => ih e he (hp.2 e he) hw) hsorted
    rw [deepSort, hsame]
    exact congrArg (fun fs => Except.ok (Json.obj fs)) (sortFields_idem sorted)

end Remedy.Json

/-! ## Variables -/

namespace Remedy.Store

theorem withoutPlace_eq (vars : Fields) :
    Location.withoutPlace vars = vars.filter fun e => e.1 ∉ Location.placeVars := by
  simp only [Location.withoutPlace, Location.placeVars, List.foldl_cons, List.foldl_nil,
    Fields.erase, List.filter_filter]
  refine List.filter_congr fun e _ => ?_
  rw [Bool.eq_iff_iff]
  simp only [bne_iff_ne, Bool.and_eq_true, decide_eq_true_eq, List.mem_cons, List.not_mem_nil]
  tauto

theorem comparedVars_eq_ok {vars compared : Fields} :
    comparedVars vars = .ok compared ↔ ∃ sorted,
      Json.deepSortFields (Location.withoutPlace vars) = .ok sorted ∧
        Json.sortFields sorted = compared := by
  rw [comparedVars, Outcome.map_eq_ok]

theorem proper_withoutPlace {vars : Fields} (hp : (Json.obj vars).proper = true) :
    (Json.obj (Location.withoutPlace vars)).proper = true := by
  rw [Json.proper_obj, withoutPlace_eq] at *
  exact ⟨hp.1.sublist (List.filter_sublist.map _), fun e he => hp.2 e (List.mem_filter.mp he).1⟩

theorem proper_comparedVars {vars compared : Fields} (hp : (Json.obj vars).proper = true)
    (h : comparedVars vars = .ok compared) : (Json.obj compared).proper = true := by
  obtain ⟨sorted, hsorted, rfl⟩ := comparedVars_eq_ok.mp h
  obtain ⟨hkeys, hvalues⟩ := Json.proper_obj.mp (proper_withoutPlace hp)
  exact Json.proper_sorted hkeys
    (fun e he _ hw => Json.proper_of_deepSort (hvalues e he) hw) hsorted

/-- Stored variables are their own compared form. -/
theorem comparedVars_idem {vars compared : Fields} (hp : (Json.obj vars).proper = true)
    (h : comparedVars vars = .ok compared) : comparedVars compared = .ok compared := by
  obtain ⟨sorted, hsorted, rfl⟩ := comparedVars_eq_ok.mp h
  -- No variable that says where an incident is has been left.
  have hplace : Location.withoutPlace (Json.sortFields sorted) = Json.sortFields sorted := by
    rw [withoutPlace_eq, List.filter_eq_self]
    intro e he
    have hkey : e.1 ∈ (Location.withoutPlace vars).map Prod.fst := by
      rw [← Json.keys_of_deepSortFields hsorted]
      exact List.mem_map_of_mem ((Json.sortFields_perm sorted).mem_iff.mp he)
    obtain ⟨e', he', hk⟩ := List.mem_map.mp hkey
    rw [withoutPlace_eq] at he'
    rw [← hk]
    exact (List.mem_filter.mp he').2
  have hvalues := (Json.proper_obj.mp (proper_withoutPlace hp)).2
  have hsame := Json.deepSortFields_sorted
    (fun e he _ hw => Json.deepSort_idem (hvalues e he) hw) hsorted
  rw [comparedVars_eq_ok, hplace]
  exact ⟨_, hsame, Json.sortFields_idem sorted⟩

end Remedy.Store
