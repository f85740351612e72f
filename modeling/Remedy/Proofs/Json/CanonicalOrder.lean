import Remedy.Proofs.Json.DeepSort
import Remedy.Proofs.Json.Reordered

/-!
# Sorting forgets the order

A value sorted throughout does not depend on the order in which its parts were written. If one order of
the parts can be sorted then every order can: whether two items have an order depends on what they mean
only, and sorted parts that differ in order mean the same. Two sorted values need not be the same, since
sorting is stable and `1` and `true` have no order among them; but in every place they mean the same.

Main results:

* `meanings_of_sorted`: two sorted lists of the same meanings have the same meaning in every place.
* `sortItems_moved`: lists with the same meanings in some order can both be sorted, and mean the same.
* `deepSort_reordered`: a value in another order can be sorted too, and means the same then.
* `deepSort_canonical`: sorting throughout gives a canonical form.
-/

namespace Remedy.Json

/-! ## Values that mean the same as themselves -/

/-- The first value stands inside the second, at some depth. -/
inductive Inside (v : Json) : Json → Prop
  | self : Inside v v
  | item {x : Json} {xs : List Json} (mem : x ∈ xs) (inside : Inside v x) : Inside v (.arr xs)
  | entry {e : String × Json} {fields : Fields} (mem : e ∈ fields) (inside : Inside v e.2) :
      Inside v (.obj fields)

/-- Every double inside the value is a number. -/
def Numeric (v : Json) : Prop :=
  ¬ Inside (.real .notANumber) v

theorem numeric_arr {xs : List Json} : Numeric (.arr xs) ↔ ∀ x ∈ xs, Numeric x := by
  constructor
  · intro h x hx hinside
    exact h (.item hx hinside)
  · intro h hinside
    cases hinside with
    | item hx hinside => exact h _ hx hinside

theorem numeric_obj {fields : Fields} : Numeric (.obj fields) ↔ ∀ e ∈ fields, Numeric e.2 := by
  constructor
  · intro h e he hinside
    exact h (.entry he hinside)
  · intro h hinside
    cases hinside with
    | entry he hinside => exact h _ he hinside

theorem exists_magnitude_of_numeric {v : Json} {q : Quantity} (hq : v.quantity? = some q)
    (h : Numeric v) : ∃ m, q.magnitude? = some m := by
  cases v with
  | bool b =>
    cases hq
    exact ⟨_, rfl⟩
  | int n =>
    cases hq
    exact ⟨_, rfl⟩
  | real x =>
    cases hq
    by_contra hnone
    have hnone : x.magnitude? = none := by
      rw [Option.eq_none_iff_forall_not_mem]
      exact fun m hm => hnone ⟨m, hm⟩
    rw [Binary64.notANumber_of_magnitude? hnone] at h
    exact h .self
  | _ => cases hq

/-- A value in which every double is a number means the same as itself. -/
theorem sameValue_self {v : Json} (hp : v.proper = true) (hn : Numeric v) :
    sameValue v v = true := by
  induction v using valueInduction with
  | null => rfl
  | number v q hq =>
    obtain ⟨m, hm⟩ := exists_magnitude_of_numeric hq hn
    rw [sameValue_number hq, sameQuantity_iff]
    exact ⟨q, m, hq, hm, hm⟩
  | str s => simp [sameValue]
  | arr xs ih =>
    rw [proper_arr] at hp
    rw [numeric_arr] at hn
    rw [sameValue, sameItems_iff, List.forall₂_same]
    exact fun x hx => ih x hx (hp x hx) (hn x hx)
  | obj fields ih =>
    rw [proper_obj] at hp
    rw [numeric_obj] at hn
    rw [sameValue_obj]
    refine ⟨rfl, fun e he => ⟨e.2, lookup_of_mem hp.1 he, ?_⟩⟩
    exact ih e he (hp.2 e he) (hn e he)

/-! ## Meanings -/

/-- What a value means: all values that mean the same. -/
def meaning (v : Json) : Set Json :=
  {w | sameValue v w = true}

/-- The value has no key twice in an object, and means the same as itself. -/
structure Settled (v : Json) : Prop where
  proper : v.proper = true
  self : sameValue v v = true

theorem settled_of_sameValue {a b : Json} (ha : a.proper = true) (hb : b.proper = true)
    (h : sameValue a b = true) : Settled a ∧ Settled b := by
  have hback := sameValue_symm ha hb h
  exact ⟨⟨ha, sameValue_trans h hback⟩, ⟨hb, sameValue_trans hback h⟩⟩

theorem Settled.meaning_eq_iff {a b : Json} (ha : Settled a) (hb : Settled b) :
    a.meaning = b.meaning ↔ sameValue a b = true := by
  constructor
  · intro h
    -- a value that means the same as itself is one of those that it means
    have hmem : b ∈ b.meaning := hb.self
    rw [← h] at hmem
    exact hmem
  · intro h
    ext c
    show sameValue a c = true ↔ sameValue b c = true
    rw [sameValue_congr_left ha.proper hb.proper h]

theorem sameValue_of_precedes {a b : Json} (ha : a.proper = true) (hb : b.proper = true)
    (hab : Precedes a b) (hba : Precedes b a) : sameValue a b = true := by
  obtain ⟨o, ho, hogt⟩ := hab
  obtain ⟨o', ho', hogt'⟩ := hba
  -- the two orders are turned around, and neither is "after"
  rw [order?_swap ha hb ho] at ho'
  cases ho'
  cases o with
  | lt => exact absurd rfl hogt'
  | eq => exact sameValue_of_order? ho
  | gt => exact absurd rfl hogt

theorem Precedes.congr_right {a b c : Json} (ha : a.proper = true) (hb : b.proper = true)
    (hc : c.proper = true) (hsame : sameValue b c = true) (h : Precedes a b) : Precedes a c := by
  obtain ⟨o, ho, hogt⟩ := h
  exact ⟨o, order?_congr_right ha hb hc hsame ho, hogt⟩

theorem Ordered.congr {a a' b b' : Json} (ha : a.proper = true) (ha' : a'.proper = true)
    (hb : b.proper = true) (hb' : b'.proper = true) (hsame : sameValue a a' = true)
    (hsame' : sameValue b b' = true) (h : Ordered a b) : Ordered a' b' := by
  obtain ⟨o, ho⟩ := Option.isSome_iff_exists.mp h.1
  have hleft : order? a' b = some o := order?_congr_left ha ha' hsame ▸ ho
  have hboth : order? a' b' = some o := order?_congr_right ha' hb hb' hsame' hleft
  refine ⟨?_, order?_isSome_comm ha' hb' ?_⟩ <;> rw [hboth] <;> rfl

/-! ## Lists -/

/-- Two sorted lists of the same meanings have the same meaning in every place. -/
theorem meanings_of_sorted {xs ys : List Json} (hxs : ∀ x ∈ xs, Settled x)
    (hys : ∀ y ∈ ys, Settled y) (hx : xs.Pairwise Precedes) (hy : ys.Pairwise Precedes)
    (hperm : (xs.map meaning).Perm (ys.map meaning)) : xs.map meaning = ys.map meaning := by
  -- the first items mean the same, and what is left has the same meanings again
  induction xs generalizing ys with
  | nil =>
    rw [List.map_nil, List.nil_perm] at hperm
    rw [hperm, List.map_nil]
  | cons x xs ih =>
    cases ys with
    | nil => simp at hperm
    | cons y ys =>
      rw [List.pairwise_cons] at hx hy
      have hsx := hxs x List.mem_cons_self
      have hsy := hys y List.mem_cons_self
      have hhead : x.meaning = y.meaning := by
        -- each of the two first items means an item of the other list, which the first of it precedes
        obtain ⟨y', hy', hyx⟩ := List.mem_map.mp (hperm.subset List.mem_cons_self)
        obtain ⟨x', hx', hxy⟩ := List.mem_map.mp (hperm.symm.subset List.mem_cons_self)
        have hsx' := hxs x' hx'
        have hsy' := hys y' hy'
        rcases List.mem_cons.mp hy' with rfl | hy'
        · exact hyx.symm
        rcases List.mem_cons.mp hx' with rfl | hx'
        · exact hxy
        -- both are later items, so that the first items precede each other
        have hyx' : Precedes y x := (hy.1 y' hy').congr_right hsy.proper hsy'.proper hsx.proper
          ((hsy'.meaning_eq_iff hsx).mp hyx)
        have hxy' : Precedes x y := (hx.1 x' hx').congr_right hsx.proper hsx'.proper hsy.proper
          ((hsx'.meaning_eq_iff hsy).mp hxy)
        exact (hsx.meaning_eq_iff hsy).mpr (sameValue_of_precedes hsx.proper hsy.proper hxy' hyx')
      rw [List.map_cons, List.map_cons, hhead] at hperm ⊢
      rw [ih (fun u hu => hxs u (List.mem_cons_of_mem _ hu))
        (fun u hu => hys u (List.mem_cons_of_mem _ hu)) hx.2 hy.2 (List.perm_cons _ |>.mp hperm)]

/-- Whether items have an order depends on what they mean only. -/
theorem pairwise_ordered_congr {xs ys : List Json} (hxs : ∀ x ∈ xs, x.proper = true)
    (hys : ∀ y ∈ ys, y.proper = true)
    (hsame : List.Forall₂ (fun x y => sameValue x y = true) xs ys) (h : xs.Pairwise Ordered) :
    ys.Pairwise Ordered := by
  obtain ⟨hlen, hget⟩ := List.forall₂_iff_get.mp hsame
  rw [List.pairwise_iff_get] at h ⊢
  intro i j hij
  have hi : i.1 < xs.length := by omega
  have hj : j.1 < xs.length := by omega
  exact (h ⟨i, hi⟩ ⟨j, hj⟩ hij).congr (hxs _ (List.get_mem _ _)) (hys _ (List.get_mem _ _))
    (hxs _ (List.get_mem _ _)) (hys _ (List.get_mem _ _)) (hget i hi i.2) (hget j hj j.2)

theorem map_meaning_eq_iff {xs ys : List Json} (hxs : ∀ x ∈ xs, Settled x)
    (hys : ∀ y ∈ ys, Settled y) :
    xs.map meaning = ys.map meaning ↔ List.Forall₂ (fun x y => sameValue x y = true) xs ys := by
  rw [map_eq_map_iff_forall₂, List.forall₂_iff_get, List.forall₂_iff_get]
  refine and_congr_right fun _ => forall₃_congr fun i hi hj => ?_
  exact (hxs _ (List.get_mem _ _)).meaning_eq_iff (hys _ (List.get_mem _ _))

/-- A list is sorted, and so is one whose items mean the same, in another order: the second can be
sorted too, and in every place the two mean the same then. -/
theorem sortItems_moved {xs xs' xs'' ws : List Json} (hxs : ∀ x ∈ xs, x.proper = true)
    (hxs' : ∀ x ∈ xs', x.proper = true)
    (hsame : List.Forall₂ (fun x y => sameValue x y = true) xs xs') (hperm : xs'.Perm xs'')
    (h : sortItems xs = .ok ws) :
    ∃ ws', sortItems xs'' = .ok ws' ∧ List.Forall₂ (fun x y => sameValue x y = true) ws ws' := by
  -- what means the same as something means the same as itself
  have hset : ∀ x ∈ xs, Settled x := by
    intro x hx
    obtain ⟨x', hx', hxx'⟩ := exists_of_forall₂_right hsame.flip hx
    exact (settled_of_sameValue (hxs x hx) (hxs' x' hx') hxx').1
  have hset' : ∀ x ∈ xs', Settled x := by
    intro x' hx'
    obtain ⟨x, hx, hxx'⟩ := exists_of_forall₂_right hsame hx'
    exact (settled_of_sameValue (hxs x hx) (hxs' x' hx') hxx').2
  have hset'' : ∀ x ∈ xs'', Settled x := fun x hx => hset' x (hperm.mem_iff.mpr hx)
  -- the items of the second list have an order as well, whatever their places
  have hordered : xs''.Pairwise Ordered :=
    (hperm.pairwise_iff And.symm).mp
      (pairwise_ordered_congr hxs hxs' hsame ((sortItems_ok_iff hxs).mp ⟨ws, h⟩))
  have hxs'' : ∀ x ∈ xs'', x.proper = true := fun x hx => (hset'' x hx).proper
  obtain ⟨ws', h'⟩ := (sortItems_ok_iff hxs'').mpr hordered
  refine ⟨ws', h', ?_⟩
  -- sorting moves items only, so that both results have the meanings of the first list
  have hws : ∀ x ∈ ws, Settled x := fun x hx => hset x ((sortItems_perm h).mem_iff.mp hx)
  have hws' : ∀ x ∈ ws', Settled x := fun x hx => hset'' x ((sortItems_perm h').mem_iff.mp hx)
  have hmeanings : (ws.map meaning).Perm (ws'.map meaning) := by
    refine ((sortItems_perm h).map meaning).trans (.trans ?_ ((sortItems_perm h').map meaning).symm)
    rw [(map_meaning_eq_iff hset hset').mpr hsame]
    exact hperm.map meaning
  rw [← map_meaning_eq_iff hws hws']
  exact meanings_of_sorted hws hws' (sortItems_pairwise hxs h) (sortItems_pairwise hxs'' h') hmeanings

/-! ## Values -/

/-- A value in another order has no key twice if the value has none. -/
theorem Reordered.proper {v v' : Json} (h : Reordered List.Perm v v') (hp : v.proper = true) :
    v'.proper = true := by
  induction v using valueInduction generalizing v' with
  | null =>
    cases h
    rfl
  | number v q hq =>
    cases h with
    | same => exact hp
    | _ => cases hq
  | str s =>
    cases h
    rfl
  | arr xs ih =>
    obtain ⟨ys, zs, inside, moved, rfl⟩ := (reordered_arr_iff .refl).mp h
    rw [proper_arr] at hp ⊢
    intro z hz
    obtain ⟨x, hx, hxz⟩ := exists_of_forall₂_right inside (moved.mem_iff.mpr hz)
    exact ih x hx hxz (hp x hx)
  | obj xs ih =>
    obtain ⟨ys, zs, inside, moved, rfl⟩ := reordered_obj_iff.mp h
    rw [proper_obj] at hp ⊢
    refine ⟨?_, fun f hf => ?_⟩
    · rw [← (moved.map Prod.fst).nodup_iff, ← (forall₂_reorderedEntry.mp inside).1]
      exact hp.1
    · obtain ⟨e, he, hef⟩ := exists_of_forall₂_right inside (moved.mem_iff.mpr hf)
      exact ih e he hef.2 (hp.2 e he)

/-- Parts are worked on one by one. If they are replaced by related parts and moved before, then all
of them can still be worked on, with related results that are moved in the same way. -/
theorem exists_mapM_moved {α : Type} {f : α → Outcome α} {R S : α → α → Prop}
    {xs ys zs us : List α}
    (hstep : ∀ x ∈ xs, ∀ y u, R x y → f x = .ok u → ∃ u', f y = .ok u' ∧ S u u')
    (inside : List.Forall₂ R xs ys) (moved : ys.Perm zs) (h : xs.mapM f = .ok us) :
    ∃ us' us'', zs.mapM f = .ok us'' ∧ List.Forall₂ S us us' ∧ us'.Perm us'' := by
  have hinside : ∃ us', List.Forall₂ (fun y u => f y = .ok u) ys us' ∧ List.Forall₂ S us us' := by
    rw [Outcome.mapM_eq_ok] at h
    clear moved
    induction inside generalizing us with
    | nil =>
      cases h
      exact ⟨[], .nil, .nil⟩
    | @cons x y xs ys hxy _ ih =>
      cases h with
      | cons hu hus =>
        obtain ⟨u', hu', hS⟩ := hstep x List.mem_cons_self y _ hxy hu
        obtain ⟨us', hus', hSs⟩ := ih (fun x' hx' => hstep x' (List.mem_cons_of_mem _ hx')) hus
        exact ⟨u' :: us', .cons hu' hus', .cons hS hSs⟩
  obtain ⟨us', hus', hS⟩ := hinside
  -- a list that is moved can be worked on and its results moved back
  obtain ⟨us'', hus'', hperm⟩ := List.perm_comp_forall₂ moved.symm hus'
  exact ⟨us', us'', Outcome.mapM_eq_ok.mpr hus'', hS, hperm.symm⟩

/-- Objects mean the same when their entries are replaced by entries that mean the same, and moved. -/
theorem sameValue_of_moved_entries {xs xs' xs'' : Fields}
    (hsame : List.Forall₂ (fun e e' => e.1 = e'.1 ∧ sameValue e.2 e'.2 = true) xs xs')
    (hperm : xs'.Perm xs'') (hp : (Json.obj (sortFields xs'')).proper = true) :
    sameValue (.obj (sortFields xs)) (.obj (sortFields xs'')) = true := by
  have hsort := sortFields_perm xs
  have hsort'' := sortFields_perm xs''
  rw [sameValue_obj]
  refine ⟨?_, fun e he => ?_⟩
  · rw [hsort.length_eq, hsort''.length_eq, ← hperm.length_eq, hsame.length_eq]
  · obtain ⟨e', he', hkey, hvalue⟩ := exists_of_forall₂_right hsame.flip (hsort.mem_iff.mp he)
    -- entries are looked up by their keys, so that their places do not matter
    have hmem : (e.1, e'.2) ∈ sortFields xs'' := by
      rw [hkey]
      exact hsort''.mem_iff.mpr (hperm.mem_iff.mp he')
    exact ⟨e'.2, lookup_of_mem (proper_obj.mp hp).1 hmem, hvalue⟩

/-- A value in another order can be sorted throughout too, and means the same then. -/
theorem deepSort_reordered {v v' w : Json} (hp : v.proper = true) (hn : Numeric v)
    (h : deepSort v = .ok w) (hr : Reordered List.Perm v v') :
    ∃ w', deepSort v' = .ok w' ∧ sameValue w w' = true := by
  induction v using valueInduction generalizing v' w with
  | null =>
    cases hr
    exact ⟨w, h, by cases h; rfl⟩
  | number v q hq =>
    cases hr with
    | same =>
      refine ⟨w, h, ?_⟩
      rw [deepSort_number hq] at h
      cases h
      exact sameValue_self hp hn
    | _ => cases hq
  | str s =>
    cases hr
    cases h
    exact ⟨_, rfl, sameValue_self hp hn⟩
  | arr xs ih =>
    have hp' := hr.proper hp
    obtain ⟨ys, zs, inside, moved, rfl⟩ := (reordered_arr_iff .refl).mp hr
    obtain ⟨us, ws, hus, hws, rfl⟩ := deepSort_arr h
    rw [proper_arr] at hp hp'
    rw [numeric_arr] at hn
    obtain ⟨us', us'', hus'', hsame, hperm⟩ := exists_mapM_moved
      (fun x hx y u hxy hu => ih x hx (hp x hx) (hn x hx) hu hxy) inside moved hus
    have hproper : ∀ u ∈ us, u.proper = true := by
      intro u hu
      obtain ⟨x, hx, hsort⟩ := (Outcome.mem_of_mapM_eq_ok hus).mp hu
      exact proper_of_deepSort (hp x hx) hsort
    have hproper' : ∀ u ∈ us', u.proper = true := by
      intro u hu
      obtain ⟨z, hz, hsort⟩ := (Outcome.mem_of_mapM_eq_ok hus'').mp (hperm.mem_iff.mp hu)
      exact proper_of_deepSort (hp' z hz) hsort
    obtain ⟨ws', hws', hmean⟩ := sortItems_moved hproper hproper' hsame hperm hws
    refine ⟨.arr ws', ?_, ?_⟩
    · rw [deepSort, deepSortItems_eq, hus'']
      exact Outcome.bind_eq_ok.mpr ⟨us'', rfl, Outcome.bind_eq_ok.mpr ⟨ws', hws', rfl⟩⟩
    · rw [sameValue, sameItems_iff]
      exact hmean
  | obj xs ih =>
    have hp' := hr.proper hp
    obtain ⟨ys, zs, inside, moved, rfl⟩ := reordered_obj_iff.mp hr
    obtain ⟨sorted, hsorted, rfl⟩ := deepSort_obj h
    rw [proper_obj] at hp
    rw [numeric_obj] at hn
    rw [deepSortFields_eq] at hsorted
    have hstep : ∀ e ∈ xs, ∀ f u, ReorderedEntry List.Perm e f → deepSortEntry e = .ok u →
        ∃ u', deepSortEntry f = .ok u' ∧ u.1 = u'.1 ∧ sameValue u.2 u'.2 = true := by
      intro e he f u hef hu
      obtain ⟨hkey, hsort⟩ := deepSortEntry_eq_ok.mp hu
      obtain ⟨w', hw', hvalue⟩ := ih e he (hp.2 e he) (hn e he) hsort hef.2
      exact ⟨(f.1, w'), deepSortEntry_eq_ok.mpr ⟨rfl, hw'⟩, hkey.trans hef.1, hvalue⟩
    obtain ⟨sorted', sorted'', hsorted'', hsame, hperm⟩ :=
      exists_mapM_moved hstep inside moved hsorted
    have hok : deepSort (.obj zs) = .ok (.obj (sortFields sorted'')) := by
      rw [deepSort, deepSortFields_eq, hsorted'']
      rfl
    exact ⟨_, hok, sameValue_of_moved_entries hsame hperm (proper_of_deepSort hp' hok)⟩

/-- **Sorting throughout gives a canonical form.** Let a value in which every double is a number be
sorted throughout. Sorting the result again leaves it as it is. If the entries of objects and the
items of lists are put into another order, at any depths, then the value can still be sorted, and
the result means the same. -/
theorem deepSort_canonical {v w : Json} (hp : v.proper = true) (hn : Numeric v)
    (h : deepSort v = .ok w) :
    deepSort w = .ok w ∧
    ∀ v', Reordered List.Perm v v' → ∃ w', deepSort v' = .ok w' ∧ sameValue w w' = true :=
  ⟨deepSort_idem hp h, fun _ hr => deepSort_reordered hp hn h hr⟩

theorem insertSorted_nil (x : Json) : insertSorted x [] = .ok [x] := by
  rw [insertSorted]
  rfl

/-- A value is put into a list by way of the item in the middle. -/
theorem insertSorted_middle {x y : Json} {front back : List Json}
    (h : (front ++ y :: back).length / 2 = front.length) :
    insertSorted x (front ++ y :: back) = less x y >>= fun comes =>
      if comes then (insertSorted x front).map (· ++ y :: back)
      else (insertSorted x back).map (front ++ y :: ·) := by
  have hdrop : (front ++ y :: back).drop ((front ++ y :: back).length / 2) = y :: back := by
    rw [h, List.drop_left]
  rw [insertSorted]
  split
  · rename_i heq
    rw [hdrop] at heq
    cases heq
  · rename_i heq
    rw [hdrop] at heq
    cases heq
    have htake : (front ++ y :: back).take ((front ++ y :: back).length / 2) = front := by
      rw [h, List.take_left]
    refine bind_congr fun comes => ?_
    rw [htake]
    cases comes with
    | true => cases insertSorted x front <;> rfl
    | false => cases insertSorted x back <;> rfl

theorem insertSorted_one (x y : Json) :
    insertSorted x [y] = (less x y).map fun comes => if comes then [x, y] else [y, x] := by
  have hmiddle : insertSorted x ([] ++ y :: []) = _ := insertSorted_middle (by simp)
  rw [List.nil_append] at hmiddle
  rw [hmiddle, insertSorted_nil]
  cases less x y with
  | error e => rfl
  | ok comes => cases comes <;> rfl

/-- A value that comes behind the second of two items is not compared with the first. -/
theorem insertSorted_behind_two {x y z : Json} (h : less x z = .ok false) :
    insertSorted x [y, z] = .ok [y, z, x] := by
  have hmiddle : insertSorted x ([y] ++ z :: []) = _ := insertSorted_middle (by simp)
  rw [List.singleton_append] at hmiddle
  rw [hmiddle, h, insertSorted_nil]
  rfl

/-- Lists in which `1` and `true`, and `0` and `false`, have no order among them, and a list that is
sorted without comparing its last two items. -/
def tied : Json :=
  .obj [("b", .arr [.arr [.int 1, .bool false], .arr [.bool true, .int 0]]),
    ("a", .arr [.str "y", .str "x", .str "z"])]

/-- The entries, the lists and the items of each list in another order. -/
def tiedMoved : Json :=
  .obj [("a", .arr [.str "x", .str "y", .str "z"]),
    ("b", .arr [.arr [.int 0, .bool true], .arr [.bool false, .int 1]])]

/-- Both can be sorted. Items that have no order among them stay as they stood, so that the results
differ, but they mean the same. -/
theorem deepSort_canonical_tied :
    ∃ w w', deepSort tied = .ok w ∧ deepSort w = .ok w ∧ deepSort tiedMoved = .ok w' ∧ w ≠ w' ∧
      sameValue w w' = true := by
  have hn : Numeric tied := by
    simp only [tied, numeric_obj, numeric_arr, List.forall_mem_cons, List.not_mem_nil,
      IsEmpty.forall_iff, implies_true, and_true]
    exact ⟨⟨⟨nofun, nofun⟩, nofun, nofun⟩, nofun, nofun, nofun⟩
  have hr : Reordered List.Perm tied tiedMoved := by
    have hone : Reordered List.Perm (.arr [.int 1, .bool false]) (.arr [.bool false, .int 1]) :=
      .arr (List.forall₂_same.mpr fun x _ => .same x) (.swap _ _ _)
    have htrue : Reordered List.Perm (.arr [.bool true, .int 0]) (.arr [.int 0, .bool true]) :=
      .arr (List.forall₂_same.mpr fun x _ => .same x) (.swap _ _ _)
    have htexts : Reordered List.Perm (.arr [.str "y", .str "x", .str "z"])
        (.arr [.str "x", .str "y", .str "z"]) :=
      .arr (List.forall₂_same.mpr fun x _ => .same x) (.swap _ _ _)
    have hlists : Reordered List.Perm (.arr [.arr [.int 1, .bool false], .arr [.bool true, .int 0]])
        (.arr [.arr [.int 0, .bool true], .arr [.bool false, .int 1]]) :=
      .arr (.cons hone (.cons htrue .nil)) (.swap _ _ _)
    refine reordered_obj_iff.mpr ⟨[("b", _), ("a", _)], _, ?_, .swap _ _ _, rfl⟩
    exact .cons ⟨rfl, hlists⟩ (.cons ⟨rfl, htexts⟩ .nil)
  -- the comparisons that are made in the lists of both
  have hzero : less (.int 0) (.bool true) = .ok true ∧ less (.bool true) (.int 0) = .ok false := by
    decide
  have hfalse : less (.bool false) (.int 1) = .ok true ∧ less (.int 1) (.bool false) = .ok false := by
    decide
  have hlists : less (.arr [.int 0, .bool true]) (.arr [.bool false, .int 1]) = .ok false ∧
      less (.arr [.bool false, .int 1]) (.arr [.int 0, .bool true]) = .ok false := by decide
  have htexts : less (.str "x") (.str "y") = .ok true ∧ less (.str "y") (.str "x") = .ok false ∧
      less (.str "z") (.str "y") = .ok false := by decide
  have hsort : deepSort tied = .ok (.obj [("a", .arr [.str "x", .str "y", .str "z"]),
      ("b", .arr [.arr [.bool false, .int 1], .arr [.int 0, .bool true]])]) := by
    simp +decide [tied, deepSort, deepSortItems, deepSortFields, sortItems, sortFields,
      insertSorted_nil, insertSorted_one, insertSorted_behind_two, hzero, hfalse, hlists, htexts,
      List.mergeSort, Except.map, bind, Except.bind, pure, Except.pure]
  obtain ⟨hidem, hmoved⟩ := deepSort_canonical (by decide) hn hsort
  obtain ⟨w', hw', hsame⟩ := hmoved tiedMoved hr
  refine ⟨_, w', hsort, hidem, hw', fun heq => ?_, hsame⟩
  rw [← heq] at hw'
  have hother : deepSort tiedMoved = .ok (.obj [("a", .arr [.str "x", .str "y", .str "z"]),
      ("b", .arr [.arr [.int 0, .bool true], .arr [.bool false, .int 1]])]) := by
    simp +decide [tiedMoved, deepSort, deepSortItems, deepSortFields, sortItems, sortFields,
      insertSorted_nil, insertSorted_one, insertSorted_behind_two, hzero, hfalse, hlists, htexts,
      List.mergeSort, Except.map, bind, Except.bind, pure, Except.pure]
  rw [hother] at hw'
  exact absurd hw' (by decide)

end Remedy.Json
