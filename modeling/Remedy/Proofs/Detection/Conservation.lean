import Remedy.Proofs.Detection.Moved
import Remedy.Store.Basic
import Mathlib.Data.List.Dedup
import Mathlib.Data.List.Perm.Subperm

/-!
# What detection conserves

Detection hands incidents on and neither loses nor doubles one. Each new incident ends as a fresh one
or as the new place of an old one, so the keys of the unsolved and the fresh incidents together are
those of the new incidents, with repetitions. Each key of the old incidents ends with one unsolved or
one solved incident. Following moved lines chooses among old incidents of one kind; which one is
chosen decides which incidents stay, and never how many.

Main results:

* `Matched.step`, `matched_run`: what matching by keys keeps, row by row.
* `Followed.step`, `followed_run`: what following moved lines keeps, incident by incident.
* `Alike.step`, `alike_run`: two ways of choosing go side by side.
* `detection_conserves`: conservation for both methods.
-/

namespace Remedy.Detection

open Remedy.Action

/-! ## Rows of the table -/

theorem mem_keys_byKey {rows : List IncidentRow} {k : IncidentKey} :
    k ∈ (byKey rows).map Prod.fst ↔ k ∈ rows.map IncidentRow.key := by
  induction rows using List.reverseRecOn with
  | nil => simp [byKey]
  | append_singleton rows r ih =>
    rw [byKey_append_singleton, mem_keys_putRow, ih]
    simp

theorem Keyed.map_key {table : ByKey} (h : Keyed table) :
    (table.map Prod.snd).map IncidentRow.key = table.map Prod.fst := by
  rw [List.map_map]
  exact List.map_congr_left fun e he => h.own e he

/-- Only one row stands under a key, so taking the key out takes out that row. -/
theorem Keyed.perm_take {table : ByKey} (h : Keyed table) {k : IncidentKey} {r : IncidentRow}
    (hr : (k, r) ∈ table) :
    (r :: (table.filter fun e => e.1 != k).map Prod.snd).Perm (table.map Prod.snd) := by
  have hnodup : table.Nodup := h.distinct.of_map
  have hsame : (table.filter fun e => e.1 != k) = table.erase (k, r) := by
    rw [hnodup.erase_eq_filter]
    refine List.filter_congr fun e he => ?_
    rw [Bool.eq_iff_iff, bne_iff_ne, bne_iff_ne]
    constructor
    · rintro hne rfl
      exact hne rfl
    · intro hne hk
      exact hne (List.inj_on_of_nodup_map h.distinct he hr hk)
  rw [hsame]
  exact ((List.perm_cons_erase hr).map Prod.snd).symm

/-! ## Matching by keys -/

section Marks

/- A mark is what the result is measured by: the key, or the key with the line as it is. -/
variable {κ : Type} {mark : IncidentRow → κ}

theorem perm_map_concat {rows seen : List IncidentRow} {r u : IncidentRow}
    (h : (rows.map mark).Perm (seen.map mark)) (hru : mark r = mark u) :
    ((rows ++ [r]).map mark).Perm ((seen ++ [u]).map mark) := by
  simp only [List.map_append, List.map_cons, List.map_nil, hru]
  exact h.append_right _

theorem perm_move_last (before after : List IncidentRow) (r : IncidentRow) :
    (before ++ [r] ++ after).Perm (before ++ after ++ [r]) := by
  rw [List.append_assoc, List.append_assoc]
  exact List.perm_append_comm.append_left before

/-- What holds after the new rows `seen` were matched with a table. -/
structure Matched (mark : IncidentRow → κ) (table : ByKey) (seen : List IncidentRow)
    (m : ExactMatch) : Prop where
  keyed : Keyed m.left
  marks : ((m.found ++ m.unmatched).map mark).Perm (seen.map mark)
  rows : (m.found ++ m.left.map Prod.snd).Perm (table.map Prod.snd)
  fresh : m.unmatched.Sublist seen

theorem Matched.step {table : ByKey} {seen : List IncidentRow} {m : ExactMatch}
    (h : Matched mark table seen m) {row : IncidentRow}
    (hmark : ∀ r ∈ table.map Prod.snd, r.key = row.key → mark r = mark row) :
    Matched mark table (seen ++ [row]) (matchRow m row) := by
  rcases matchRow_cases m row with ⟨old, hold, heq⟩ | ⟨-, heq⟩
  · -- the row is found again: it leaves the table for the rows that were found
    have hin : old ∈ table.map Prod.snd :=
      h.rows.subset (List.mem_append_right _ (List.mem_map_of_mem hold))
    have hsame : mark old = mark row := hmark old hin (h.keyed.own _ hold)
    rw [heq]
    refine ⟨⟨?_, ?_⟩, ?_, ?_, ?_⟩
    · exact fun e he => h.keyed.own e (List.mem_of_mem_filter he)
    · exact h.keyed.distinct.sublist (List.filter_sublist.map Prod.fst)
    · exact ((perm_move_last m.found m.unmatched old).map mark).trans (perm_map_concat h.marks hsame)
    · rw [List.append_assoc, List.singleton_append]
      exact ((h.keyed.perm_take hold).append_left m.found).trans h.rows
    · exact h.fresh.trans (List.sublist_append_left seen [row])
  · rw [heq]
    refine ⟨h.keyed, ?_, h.rows, h.fresh.append (List.Sublist.refl [row])⟩
    rw [← List.append_assoc]
    exact perm_map_concat h.marks rfl

/-- After all new rows were matched, their marks are those of the rows found and of the unmatched
ones, and no row of the table is lost. -/
theorem matched_run {table : ByKey} (htable : Keyed table) (new : List IncidentRow)
    (hmark : ∀ r ∈ table.map Prod.snd, ∀ u ∈ new, r.key = u.key → mark r = mark u) :
    Matched mark table new (new.foldl matchRow { left := table }) := by
  induction new using List.reverseRecOn with
  | nil => exact ⟨htable, List.Perm.refl _, List.Perm.refl _, List.Sublist.refl _⟩
  | append_singleton seen row ih =>
    have hseen := ih fun r hr u hu => hmark r hr u (List.mem_append_left _ hu)
    rw [List.foldl_append, List.foldl_cons, List.foldl_nil]
    exact hseen.step fun r hr => hmark r hr row (by simp)

/-! ## Groups of old incidents -/

/-- Every incident of a group is of its kind, and no kind has two groups. -/
structure Grouped (groups : Groups) : Prop where
  own : ∀ g ∈ groups, ∀ r ∈ g.2, r.placeKey = g.1
  distinct : (groups.map Prod.fst).Nodup

theorem Grouped.nil : Grouped [] :=
  ⟨by simp, by simp⟩

theorem Grouped.tail {g : PlaceKey × List IncidentRow} {groups : Groups}
    (h : Grouped (g :: groups)) : Grouped groups :=
  ⟨fun g' hg' => h.own g' (List.mem_cons_of_mem _ hg'), (List.nodup_cons.mp h.distinct).2⟩

theorem mem_kinds_addToGroup {groups : Groups} {r : IncidentRow} {k : PlaceKey} :
    k ∈ (addToGroup groups r).map Prod.fst ↔ k ∈ groups.map Prod.fst ∨ k = r.placeKey := by
  induction groups with
  | nil => simp [addToGroup]
  | cons g rest ih =>
    obtain ⟨k', rows⟩ := g
    rw [addToGroup]
    split
    · next heq =>
      simp only [List.map_cons, List.mem_cons]
      rw [heq]
      tauto
    · simp only [List.map_cons, List.mem_cons, ih]
      tauto

theorem Grouped.addToGroup {groups : Groups} (h : Grouped groups) (r : IncidentRow) :
    Grouped (addToGroup groups r) := by
  induction groups with
  | nil =>
    rw [Detection.addToGroup]
    exact ⟨by simp, by simp⟩
  | cons g rest ih =>
    obtain ⟨k, rows⟩ := g
    have hdistinct := h.distinct
    rw [List.map_cons, List.nodup_cons] at hdistinct
    rw [Detection.addToGroup]
    split
    · next heq =>
      refine ⟨?_, by rw [List.map_cons, List.nodup_cons]; exact hdistinct⟩
      intro g hg x hx
      rcases List.mem_cons.mp hg with rfl | hg
      · rcases List.mem_append.mp hx with hx | hx
        · exact h.own _ List.mem_cons_self x hx
        · rw [List.mem_singleton] at hx
          rw [hx, heq]
      · exact h.own g (List.mem_cons_of_mem _ hg) x hx
    · next hne =>
      have hrest := ih h.tail
      refine ⟨?_, ?_⟩
      · intro g hg x hx
        rcases List.mem_cons.mp hg with rfl | hg
        · exact h.own _ List.mem_cons_self x hx
        · exact hrest.own g hg x hx
      · rw [List.map_cons, List.nodup_cons]
        refine ⟨?_, hrest.distinct⟩
        rw [mem_kinds_addToGroup]
        rintro (hin | heq)
        · exact hdistinct.1 hin
        · exact hne heq

theorem perm_addToGroup (groups : Groups) (r : IncidentRow) :
    ((addToGroup groups r).flatMap Prod.snd).Perm (groups.flatMap Prod.snd ++ [r]) := by
  induction groups with
  | nil => exact List.Perm.refl _
  | cons g rest ih =>
    obtain ⟨k, rows⟩ := g
    rw [addToGroup]
    split
    · rw [List.flatMap_cons, List.flatMap_cons, List.append_assoc, List.append_assoc]
      exact List.perm_append_comm.append_left rows
    · rw [List.flatMap_cons, List.flatMap_cons, List.append_assoc]
      exact ih.append_left rows

/-- Grouping incidents keeps all of them. -/
theorem grouped_run (rows : List IncidentRow) :
    Grouped (rows.foldl addToGroup []) ∧
      ((rows.foldl addToGroup []).flatMap Prod.snd).Perm rows := by
  induction rows using List.reverseRecOn with
  | nil => exact ⟨Grouped.nil, List.Perm.refl _⟩
  | append_singleton rows r ih =>
    rw [List.foldl_append, List.foldl_cons, List.foldl_nil]
    exact ⟨ih.1.addToGroup r, (perm_addToGroup _ r).trans (ih.2.append_right [r])⟩

theorem mem_of_lookup_group {groups : Groups} {k : PlaceKey} {rows : List IncidentRow}
    (h : groups.lookup k = some rows) : (k, rows) ∈ groups := by
  obtain ⟨before, after, rfl, -⟩ := List.lookup_eq_some_iff.mp h
  simp

theorem setGroup_of_notMem {groups : Groups} {k : PlaceKey} (h : k ∉ groups.map Prod.fst)
    (rows : List IncidentRow) : setGroup groups k rows = groups := by
  have hsame : ∀ g ∈ groups, (if g.1 = k then (g.1, rows) else (g.1, g.2)) = g := by
    intro g hg
    have hne : g.1 ≠ k := fun hk => h (List.mem_map.mpr ⟨g, hg, hk⟩)
    rw [if_neg hne]
  rw [setGroup, List.map_congr_left hsame, List.map_id']

theorem Grouped.setGroup {groups : Groups} (h : Grouped groups) {k : PlaceKey}
    {rows others : List IncidentRow} (hlook : groups.lookup k = some rows) (hsub : others ⊆ rows) :
    Grouped (setGroup groups k others) := by
  refine ⟨?_, ?_⟩
  · intro g hg x hx
    obtain ⟨g', hg', rfl⟩ := List.mem_map.mp hg
    dsimp only at hx ⊢
    split at hx
    · next hk =>
      rw [if_pos hk]
      have hown := h.own _ (mem_of_lookup_group hlook) x (hsub hx)
      exact hown.trans hk.symm
    · next hk =>
      rw [if_neg hk]
      exact h.own g' hg' x hx
  · have hkinds : (Detection.setGroup groups k others).map Prod.fst = groups.map Prod.fst := by
      rw [Detection.setGroup, List.map_map]
      refine List.map_congr_left fun g _ => ?_
      show (if g.1 = k then (g.1, others) else (g.1, g.2)).1 = g.1
      split <;> rfl
    rw [hkinds]
    exact h.distinct

/-- Taking an incident out of its group takes it out of all groups. -/
theorem Grouped.perm_setGroup {groups : Groups} (h : Grouped groups) {k : PlaceKey}
    {old : IncidentRow} {rows others : List IncidentRow} (hlook : groups.lookup k = some rows)
    (hrows : (old :: others).Perm rows) :
    (old :: (Detection.setGroup groups k others).flatMap Prod.snd).Perm
      (groups.flatMap Prod.snd) := by
  induction groups with
  | nil => simp at hlook
  | cons g rest ih =>
    obtain ⟨k', rows'⟩ := g
    have hdistinct := h.distinct
    rw [List.map_cons, List.nodup_cons] at hdistinct
    by_cases hk : k' = k
    · subst hk
      have hfirst : rows' = rows := by simpa using hlook
      subst hfirst
      have hset : Detection.setGroup ((k', rows') :: rest) k' others = (k', others) :: rest := by
        show (if k' = k' then (k', others) else (k', rows')) :: Detection.setGroup rest k' others = _
        rw [if_pos rfl, setGroup_of_notMem hdistinct.1]
      rw [hset, List.flatMap_cons, List.flatMap_cons, ← List.cons_append]
      exact hrows.append_right _
    · have hrest : rest.lookup k = some rows := by
        have hne : (k == k') = false := by simpa using Ne.symm hk
        simpa [List.lookup_cons, hne] using hlook
      have hset : Detection.setGroup ((k', rows') :: rest) k others =
          (k', rows') :: Detection.setGroup rest k others := by
        show (if k' = k then (k', others) else (k', rows')) :: Detection.setGroup rest k others = _
        rw [if_neg hk]
      rw [hset, List.flatMap_cons, List.flatMap_cons]
      exact List.perm_middle.symm.trans ((ih h.tail hrest).append_left rows')

/-- Dropping a group that is empty drops no incident. -/
theorem Grouped.perm_dropGroup {groups : Groups} (h : Grouped groups) {k : PlaceKey}
    (hlook : groups.lookup k = some []) :
    Grouped (dropGroup groups k) ∧
      (dropGroup groups k).flatMap Prod.snd = groups.flatMap Prod.snd := by
  refine ⟨⟨fun g hg => h.own g (List.mem_of_mem_filter hg),
    h.distinct.sublist (List.filter_sublist.map Prod.fst)⟩, ?_⟩
  have hempty : ∀ g ∈ groups, g.1 = k → g.2 = [] := by
    intro g hg hk
    have heq : g = (k, []) := List.inj_on_of_nodup_map h.distinct hg (mem_of_lookup_group hlook) hk
    rw [heq]
  clear h hlook
  induction groups with
  | nil => rfl
  | cons g rest ih =>
    have hrest := ih fun g' hg' => hempty g' (List.mem_cons_of_mem _ hg')
    by_cases hk : g.1 = k
    · rw [dropGroup, List.filter_cons_of_neg (by simpa using hk), List.flatMap_cons,
        hempty g List.mem_cons_self hk, List.nil_append]
      exact hrest
    · rw [dropGroup, List.filter_cons_of_pos (by simpa using hk), List.flatMap_cons,
        List.flatMap_cons]
      exact congrArg (g.2 ++ ·) hrest

theorem takeChosen_perm {choose : List IncidentRow → Nat} {rows others : List IncidentRow}
    {old : IncidentRow} (h : takeChosen choose rows = some (old, others)) :
    (old :: others).Perm rows := by
  obtain ⟨r, hr, heq⟩ := Option.map_eq_some_iff.mp h
  cases heq
  obtain ⟨hlt, hget⟩ := List.getElem?_eq_some_iff.mp hr
  rw [← hget]
  exact List.getElem_cons_eraseIdx_perm hlt

/-! ## Following moved lines -/

/-- The incident is the other one, at most on another line. -/
def Relocated (r u : IncidentRow) : Prop :=
  ∃ line, u = { r with line }

theorem Relocated.refl (r : IncidentRow) : Relocated r r :=
  ⟨r.line, rfl⟩

/-- What holds after the incidents `seen` were followed that matched no key. -/
structure Followed (mark : IncidentRow → κ) (start : Progress) (seen : List IncidentRow)
    (p : Progress) : Prop where
  grouped : Grouped p.groups
  marks : ((p.unsolved ++ p.fresh).map mark).Perm ((start.unsolved ++ seen).map mark)
  /-- The unsolved incidents come from old ones that have left the groups. -/
  rows : ∃ kept, List.Forall₂ Relocated kept p.unsolved ∧
    (kept ++ p.groups.flatMap Prod.snd).Perm (start.unsolved ++ start.groups.flatMap Prod.snd)
  fresh : p.fresh.Sublist seen

theorem Followed.step {s : Setting} {start p q : Progress} {seen : List IncidentRow}
    {row : IncidentRow} {calls calls' : List GitCall}
    (hmark : ∀ r : IncidentRow, r.placeKey = row.placeKey →
      mark { r with line := row.line } = mark row)
    (h : Followed mark start seen p)
    (hstep : (matchMoved s p row).exec calls = (.ok q, calls')) :
    Followed mark start (seen ++ [row]) q := by
  -- in two of the three cases the incident is fresh
  have hfresh : ((p.unsolved ++ (p.fresh ++ [row])).map mark).Perm
      ((start.unsolved ++ (seen ++ [row])).map mark) := by
    rw [← List.append_assoc, ← List.append_assoc]
    exact perm_map_concat h.marks rfl
  rcases matchMoved_ok hstep with rfl | ⟨hlook, rfl⟩ | ⟨rows, old, others, hlook, htake, rfl⟩
  · exact ⟨h.grouped, hfresh, h.rows, h.fresh.append (List.Sublist.refl [row])⟩
  · obtain ⟨hgrouped, hsame⟩ := h.grouped.perm_dropGroup hlook
    refine ⟨hgrouped, hfresh, ?_, h.fresh.append (List.Sublist.refl [row])⟩
    obtain ⟨kept, hkept, hperm⟩ := h.rows
    refine ⟨kept, hkept, ?_⟩
    rw [hsame]
    exact hperm
  · have hperm := takeChosen_perm htake
    have hold : old ∈ rows := hperm.subset List.mem_cons_self
    have hkind : old.placeKey = row.placeKey :=
      h.grouped.own _ (mem_of_lookup_group hlook) old hold
    have hothers : others ⊆ rows := fun x hx => hperm.subset (List.mem_cons_of_mem _ hx)
    refine ⟨h.grouped.setGroup hlook hothers, ?_, ?_, ?_⟩
    · -- the old incident now carries the mark of the new one
      refine ((perm_move_last p.unsolved p.fresh _).map mark).trans ?_
      rw [← List.append_assoc]
      exact perm_map_concat h.marks (hmark old hkind)
    · obtain ⟨kept, hkept, hall⟩ := h.rows
      refine ⟨kept ++ [old], ?_, ?_⟩
      · exact List.rel_append hkept (.cons ⟨row.line, rfl⟩ .nil)
      · rw [List.append_assoc, List.singleton_append]
        exact ((h.grouped.perm_setGroup hlook hperm).append_left kept).trans hall
    · exact h.fresh.trans (List.sublist_append_left seen [row])

theorem followed_run {s : Setting} {start q : Progress} {new : List IncidentRow}
    {calls calls' : List GitCall} (hgrouped : Grouped start.groups) (hstart : start.fresh = [])
    (hmark : ∀ r u : IncidentRow, r.placeKey = u.placeKey → mark { r with line := u.line } = mark u)
    (h : (new.foldlM (matchMoved s) start).exec calls = (.ok q, calls')) :
    Followed mark start new q := by
  induction new using List.reverseRecOn generalizing q calls' with
  | nil =>
    cases h
    refine ⟨hgrouped, ?_, ⟨start.unsolved, ?_, List.Perm.refl _⟩, ?_⟩
    · rw [hstart]
    · exact List.forall₂_same.mpr fun r _ => Relocated.refl r
    · rw [hstart]
  | append_singleton seen row ih =>
    rw [List.foldlM_append] at h
    obtain ⟨p, calls₁, hseen, hlast⟩ := exec_bind_eq_ok.mp h
    rw [List.foldlM_cons] at hlast
    obtain ⟨q', calls₂, hstep, hnil⟩ := exec_bind_eq_ok.mp hlast
    cases hnil
    exact (ih hseen).step (hmark · row) hstep

/-- What both methods conserve, measured by a mark that exact matches share and that a line and a
kind determine. -/
theorem conserved {kind : DetectorKind} {s : Setting} {old new : List IncidentRow}
    {found : Detection} (h : ((detect kind s old new).exec []).1 = .ok found)
    (hexact : ∀ r ∈ old, ∀ u ∈ new, r.key = u.key → mark r = mark u)
    (hmoved : ∀ r u : IncidentRow, r.placeKey = u.placeKey →
      mark { r with line := u.line } = mark u) :
    ((found.unsolved ++ found.fresh).map mark).Perm (new.map mark) ∧
    found.fresh.Sublist new ∧
    ∃ kept, List.Forall₂ Relocated kept found.unsolved ∧
      (kept ++ found.solved).Perm ((byKey old).map Prod.snd) := by
  have hfirst : Matched mark (byKey old) new (matchExactly old new) := by
    refine matched_run (keyed_byKey old) new fun r hr u hu hk => hexact r ?_ u hu hk
    obtain ⟨e, he, rfl⟩ := List.mem_map.mp hr
    exact (mem_byKey.mp he).2.mem
  cases kind with
  | naive =>
    cases h
    refine ⟨hfirst.marks, hfirst.fresh, (matchExactly old new).found, ?_, hfirst.rows⟩
    exact List.forall₂_same.mpr fun r _ => Relocated.refl r
  | lineMatch =>
    -- the second pass starts from what the first has left over
    obtain ⟨q, calls, hfold, rfl⟩ := lineMatch_ok h
    obtain ⟨hgrouped, hgroups⟩ := grouped_run ((matchExactly old new).left.map Prod.snd)
    have hsecond := followed_run hgrouped rfl hmoved hfold
    refine ⟨hsecond.marks.trans hfirst.marks, hsecond.fresh.trans hfirst.fresh, ?_⟩
    obtain ⟨kept, hkept, hperm⟩ := hsecond.rows
    exact ⟨kept, hkept, hperm.trans ((hgroups.append_left _).trans hfirst.rows)⟩

end Marks

/-! ## Ways of choosing -/

/-- Two detections that have come equally far, with groups of the same sizes. -/
structure Alike (p q : Progress) : Prop where
  fresh : p.fresh = q.fresh
  unsolved : p.unsolved.length = q.unsolved.length
  groups : List.Forall₂ (fun g g' => g.1 = g'.1 ∧ g.2.length = g'.2.length) p.groups q.groups

theorem Alike.refl (p : Progress) : Alike p p :=
  ⟨rfl, rfl, List.forall₂_same.mpr fun _ _ => ⟨rfl, rfl⟩⟩

theorem Alike.solved {p q : Progress} (h : Alike p q) :
    (p.groups.flatMap Prod.snd).length = (q.groups.flatMap Prod.snd).length := by
  have hgroups := h.groups
  generalize p.groups = gs at hgroups ⊢
  generalize q.groups = gs' at hgroups ⊢
  induction hgroups with
  | nil => rfl
  | cons hg _ ih =>
    rw [List.flatMap_cons, List.flatMap_cons, List.length_append, List.length_append, hg.2, ih]

/-- Groups of the same sizes are found or missed alike. -/
theorem lookup_alike {gs gs' : Groups}
    (h : List.Forall₂ (fun g g' => g.1 = g'.1 ∧ g.2.length = g'.2.length) gs gs') (k : PlaceKey) :
    (gs.lookup k = none ∧ gs'.lookup k = none) ∨
      ∃ rows rows', gs.lookup k = some rows ∧ gs'.lookup k = some rows' ∧
        rows.length = rows'.length := by
  induction h with
  | nil => exact .inl ⟨rfl, rfl⟩
  | @cons g g' rest rest' hg _ ih =>
    obtain ⟨k₁, rows⟩ := g
    obtain ⟨k₂, rows'⟩ := g'
    obtain ⟨rfl, hlen⟩ : k₁ = k₂ ∧ rows.length = rows'.length := hg
    rw [List.lookup_cons, List.lookup_cons]
    by_cases hk : (k == k₁) = true
    · rw [hk]
      exact .inr ⟨rows, rows', rfl, rfl, hlen⟩
    · rw [Bool.not_eq_true] at hk
      rw [hk]
      exact ih

theorem takeChosen_isSome (choose : List IncidentRow → Nat) {rows : List IncidentRow}
    (h : rows ≠ []) : ∃ old others, takeChosen choose rows = some (old, others) ∧
      others.length + 1 = rows.length := by
  have hlt : choose rows % rows.length < rows.length := Nat.mod_lt _ (List.length_pos_iff.mpr h)
  refine ⟨rows[choose rows % rows.length], rows.eraseIdx (choose rows % rows.length), ?_, ?_⟩
  · rw [takeChosen, List.getElem?_eq_getElem hlt]
    rfl
  · rw [List.length_eraseIdx_of_lt hlt]
    omega

/-- One incident is treated alike, whichever old incident is chosen for it: whether its code is kept
does not depend on the choice. -/
theorem Alike.step {s : Setting} (choose : List IncidentRow → Nat) {p q p' : Progress}
    (h : Alike p q) {row : IncidentRow} {calls calls' : List GitCall}
    (hstep : (matchMoved s p row).exec calls = (.ok p', calls')) :
    ∃ q', (matchMoved { s with choose } q row).exec calls = (.ok q', calls') ∧ Alike p' q' := by
  rw [matchMoved] at hstep
  rw [matchMoved]
  rcases lookup_alike h.groups row.placeKey with ⟨hp, hq⟩ | ⟨rows, rows', hp, hq, hlen⟩
  · -- no group of its kind: fresh on both sides
    rw [hp] at hstep
    rw [hq]
    cases hstep
    exact ⟨_, rfl, by rw [h.fresh], h.unsolved, h.groups⟩
  · rw [hp] at hstep
    rw [hq]
    by_cases hempty : rows = []
    · have hempty' : rows' = [] := List.length_eq_zero_iff.mp (by rw [← hlen, hempty]; rfl)
      subst hempty hempty'
      cases hstep
      refine ⟨_, rfl, by rw [h.fresh], h.unsolved, ?_⟩
      refine List.rel_filter (fun g g' hg => ?_) h.groups
      show (g.1 != row.placeKey) = true ↔ (g'.1 != row.placeKey) = true
      rw [hg.1]
    · have hempty' : rows' ≠ [] := by
        rintro rfl
        exact hempty (List.length_eq_zero_iff.mp hlen)
      obtain ⟨old, others, htake, hcount⟩ := takeChosen_isSome s.choose hempty
      obtain ⟨old', others', htake', hcount'⟩ := takeChosen_isSome choose hempty'
      simp only [htake] at hstep
      simp only [htake']
      obtain ⟨kept, calls₁, hkept, hrest⟩ := exec_bind_eq_ok.mp hstep
      -- the repository is asked about the new incident, so it gives both sides one answer
      have hkept' : (isKept { s with choose } row).exec calls = (.ok kept, calls₁) := hkept
      rw [exec_bind_of_ok hkept']
      cases kept with
      | false =>
        cases hrest
        exact ⟨_, rfl, by rw [h.fresh], h.unsolved, h.groups⟩
      | true =>
        cases hrest
        refine ⟨_, rfl, h.fresh, ?_, ?_⟩
        · rw [List.length_append, List.length_append, h.unsolved]
          rfl
        · show List.Forall₂ _ (setGroup ..) (setGroup ..)
          rw [setGroup, setGroup, List.forall₂_map_left_iff, List.forall₂_map_right_iff]
          refine h.groups.imp fun g g' hg => ?_
          have hothers : others.length = others'.length := by omega
          dsimp only
          rw [hg.1]
          split
          · exact ⟨rfl, hothers⟩
          · exact ⟨rfl, hg.2⟩

theorem alike_run {s : Setting} (choose : List IncidentRow → Nat) {new : List IncidentRow}
    {p q p' : Progress} (h : Alike p q) {calls calls' : List GitCall}
    (hrun : (new.foldlM (matchMoved s) p).exec calls = (.ok p', calls')) :
    ∃ q', (new.foldlM (matchMoved { s with choose }) q).exec calls = (.ok q', calls') ∧
      Alike p' q' := by
  induction new generalizing p q calls with
  | nil =>
    cases hrun
    exact ⟨q, rfl, h⟩
  | cons row rest ih =>
    rw [List.foldlM_cons] at hrun ⊢
    obtain ⟨p₁, calls₁, hstep, hrest⟩ := exec_bind_eq_ok.mp hrun
    obtain ⟨q₁, hstep', halike⟩ := h.step choose hstep
    obtain ⟨q', hrest', hend⟩ := ih halike hrest
    exact ⟨q', by rw [exec_bind_of_ok hstep']; exact hrest', hend⟩

/-- However incidents are chosen, detection comes to an end alike: with the same fresh incidents and
as many unsolved and solved ones. -/
theorem detect_choose {kind : DetectorKind} {s : Setting} {old new : List IncidentRow}
    {found : Detection} (h : ((detect kind s old new).exec []).1 = .ok found)
    (choose : List IncidentRow → Nat) :
    ∃ found', ((detect kind { s with choose } old new).exec []).1 = .ok found' ∧
      found'.fresh = found.fresh ∧ found'.unsolved.length = found.unsolved.length ∧
      found'.solved.length = found.solved.length := by
  cases kind with
  | naive =>
    cases h
    exact ⟨_, rfl, rfl, rfl, rfl⟩
  | lineMatch =>
    obtain ⟨p, calls, hfold, rfl⟩ := lineMatch_ok h
    obtain ⟨q, hfold', halike⟩ := alike_run choose (Alike.refl _) hfold
    refine ⟨{ fresh := q.fresh, unsolved := q.unsolved, solved := q.groups.flatMap Prod.snd }, ?_,
      halike.fresh.symm, halike.unsolved.symm, halike.solved.symm⟩
    show ((lineMatch { s with choose } old new).exec []).1 = _
    rw [lineMatch, filterExact_eq_matchExactly, exec_bind_of_ok hfold']
    rfl

/-! ## Conservation -/

theorem nodup_byKey_rows (rows : List IncidentRow) :
    (((byKey rows).map Prod.snd).map IncidentRow.key).Nodup := by
  rw [(keyed_byKey rows).map_key]
  exact (keyed_byKey rows).distinct

/-- The table holds one row for each key, so it is a selection of the rows that were put in. -/
theorem byKey_subperm (rows : List IncidentRow) :
    ((byKey rows).map Prod.snd).Subperm rows := by
  refine List.subperm_of_subset (nodup_byKey_rows rows).of_map fun r hr => ?_
  obtain ⟨e, he, rfl⟩ := List.mem_map.mp hr
  exact (mem_byKey.mp he).2.mem

theorem exists_kept_of_mem {kept unsolved : List IncidentRow}
    (h : List.Forall₂ Relocated kept unsolved) {u : IncidentRow} (hu : u ∈ unsolved) :
    ∃ r ∈ kept, Relocated r u := by
  induction h with
  | nil => cases hu
  | @cons r u' _ _ hru _ ih =>
    rcases List.mem_cons.mp hu with rfl | hu
    · exact ⟨r, List.mem_cons_self, hru⟩
    · obtain ⟨r', hr', hrel⟩ := ih hu
      exact ⟨r', List.mem_cons_of_mem _ hr', hrel⟩

/-- Lines are taken over for the incidents that are unsolved and for no other. -/
theorem relined_of_notMem {old kept unsolved : List IncidentRow}
    (hids : (old.map IncidentRow.id).Nodup) (hkept : List.Forall₂ Relocated kept unsolved)
    (hsub : kept ⊆ old) {r : IncidentRow} (hr : r ∈ old) (hnot : r ∉ kept) :
    Store.relined unsolved r = r := by
  rw [Store.relined]
  split
  · next u hu =>
    exfalso
    have hid : u.id = r.id := by simpa using List.find?_some hu
    obtain ⟨k, hk, line, rfl⟩ := exists_kept_of_mem hkept (List.mem_of_find?_eq_some hu)
    have hsame : k = r := List.inj_on_of_nodup_map hids (hsub hk) hr hid
    exact hnot (hsame ▸ hk)
  · rfl

/-- **Detection conserves incidents.** Whatever the method, when detection comes to its end:

* the keys of the unsolved incidents, as they are now, and of the fresh ones are those of the new
  incidents, each as often;
* the fresh incidents are some of the new ones, in their order;
* the unsolved and the solved incidents are different old ones, no two with one key, as many as there
  are different keys; an unsolved one has changed its line at most, a solved one not at all, and any
  other old incident stays as it was;
* how many of each there are does not depend on how moved incidents are chosen.

The keys that are compared are taken to tell the incidents apart. -/
theorem detection_conserves {kind : DetectorKind} {s : Setting} {old new : List IncidentRow}
    {found : Detection} (h : ((detect kind s old new).exec []).1 = .ok found)
    (hhash : ∀ r ∈ old ++ new, ∀ u ∈ old ++ new, r.key = u.key → r.exactKey = u.exactKey) :
    ((found.unsolved ++ found.fresh).map IncidentRow.exactKey).Perm
      (new.map IncidentRow.exactKey) ∧
    found.fresh.Sublist new ∧
    (∃ kept, List.Forall₂ Relocated kept found.unsolved ∧ (kept ++ found.solved).Subperm old ∧
      ((kept ++ found.solved).map IncidentRow.exactKey).Nodup ∧
      found.unsolved.length + found.solved.length = (old.map IncidentRow.exactKey).dedup.length ∧
      ((old.map IncidentRow.id).Nodup →
        ∀ r ∈ old, r ∉ kept → Store.relined found.unsolved r = r)) ∧
    ∀ choose, ∃ found', ((detect kind { s with choose } old new).exec []).1 = .ok found' ∧
      found'.fresh.length = found.fresh.length ∧
      found'.unsolved.length = found.unsolved.length ∧
      found'.solved.length = found.solved.length := by
  have hexact : ∀ r ∈ old, ∀ u ∈ new, r.key = u.key → r.exactKey = u.exactKey :=
    fun r hr u hu => hhash r (List.mem_append_left _ hr) u (List.mem_append_right _ hu)
  have hmoved : ∀ r u : IncidentRow, r.placeKey = u.placeKey →
      ({ r with line := u.line } : IncidentRow).exactKey = u.exactKey := by
    intro r u hplace
    exact congrArg (IncidentKey.mk · u.line) hplace
  obtain ⟨hkeys, hfresh, kept, hkept, hperm⟩ := conserved h hexact hmoved
  have hsubperm : (kept ++ found.solved).Subperm old :=
    hperm.subperm.trans (byKey_subperm old)
  have hsub : ∀ r ∈ kept ++ found.solved, r ∈ old := fun r hr => hsubperm.subset hr
  have hnodup : ((kept ++ found.solved).map IncidentRow.exactKey).Nodup := by
    have hdistinct := (hperm.map IncidentRow.key).nodup_iff.mpr (nodup_byKey_rows old)
    rw [List.Nodup, List.pairwise_map] at hdistinct ⊢
    exact hdistinct.imp fun hne heq => hne (IncidentRow.key_eq_of_exactKey heq)
  refine ⟨hkeys, hfresh, ⟨kept, hkept, hsubperm, hnodup, ?_, ?_⟩, fun choose => ?_⟩
  · -- one incident for each key: every old incident shares its key with a selected one
    have hall : ((kept ++ found.solved).map IncidentRow.exactKey).Perm
        (old.map IncidentRow.exactKey).dedup := by
      refine (List.perm_ext_iff_of_nodup hnodup (List.nodup_dedup _)).mpr fun k => ?_
      rw [List.mem_dedup]
      constructor
      · intro hk
        obtain ⟨r, hr, rfl⟩ := List.mem_map.mp hk
        exact List.mem_map_of_mem (hsub r hr)
      · intro hk
        obtain ⟨r, hr, rfl⟩ := List.mem_map.mp hk
        have hkey : r.key ∈ ((byKey old).map Prod.snd).map IncidentRow.key := by
          rw [(keyed_byKey old).map_key, mem_keys_byKey]
          exact List.mem_map_of_mem hr
        obtain ⟨u, hu, huk⟩ := List.mem_map.mp hkey
        have hsel : u ∈ kept ++ found.solved := hperm.symm.subset hu
        have hsame : u.exactKey = r.exactKey :=
          hhash u (List.mem_append_left _ (hsub u hsel)) r (List.mem_append_left _ hr) huk
        exact List.mem_map.mpr ⟨u, hsel, hsame⟩
    have hlen := hall.length_eq
    rw [List.length_map, List.length_append, hkept.length_eq] at hlen
    exact hlen
  · intro hids r hr hnot
    exact relined_of_notMem hids hkept (fun x hx => hsub x (List.mem_append_left _ hx)) hr hnot
  · obtain ⟨found', hdetect, hsame, hunsolved, hsolved⟩ := detect_choose h choose
    exact ⟨found', hdetect, by rw [hsame], hunsolved, hsolved⟩

/-! ### An example -/

/-- Two versions of files that keep all of their code. -/
def keptCode : Setting where
  repo := { content? := fun _ => some "code" }
  oldCommit := "c1"
  newCommit := "c2"
  source := { parse := fun _ => .ok (.node "file" 0 4 []), keeps := fun _ _ _ => true }

/-- An incident of one rule in a file. -/
def plainRow (id : Nat) (file : String) (line : Int) : IncidentRow where
  id
  violation := some "rule"
  ruleset := some "rules"
  application := "a"
  uri := "file:///work/" ++ file
  message := "found"
  snippet := ""
  line
  vars := []

/-- Of two old incidents with one key the second is found again, a third has moved, and the fourth is
gone. Of the new ones at other lines one takes the place of the moved incident and one is fresh. -/
theorem detection_conserves_moved_incident :
    let old := [plainRow 1 "A.java" 3, plainRow 2 "A.java" 3, plainRow 3 "A.java" 7,
      plainRow 4 "B.java" 5]
    let new := [plainRow 0 "A.java" 9, plainRow 0 "A.java" 3, plainRow 0 "A.java" 11]
    let found : Detection :=
      { fresh := [plainRow 0 "A.java" 11]
        unsolved := [plainRow 2 "A.java" 3, plainRow 3 "A.java" 9]
        solved := [plainRow 4 "B.java" 5] }
    ((detect .lineMatch keptCode old new).exec []).1 = .ok found ∧
    (∀ r ∈ old ++ new, ∀ u ∈ old ++ new, r.key = u.key → r.exactKey = u.exactKey) ∧
    ((found.unsolved ++ found.fresh).map IncidentRow.exactKey).Perm
      (new.map IncidentRow.exactKey) ∧
    (∃ kept, List.Forall₂ Relocated kept found.unsolved ∧ (kept ++ found.solved).Subperm old) ∧
    ∀ choose, ∃ found', ((detect .lineMatch { keptCode with choose } old new).exec []).1 =
      .ok found' ∧ found'.solved.length = 1 := by
  intro old new found
  have hdetect : ((detect .lineMatch keptCode old new).exec []).1 = .ok found := by decide +kernel
  have hhash : ∀ r ∈ old ++ new, ∀ u ∈ old ++ new, r.key = u.key → r.exactKey = u.exactKey := by
    decide +kernel
  obtain ⟨hkeys, -, ⟨kept, hkept, hsub, -⟩, hchoose⟩ := detection_conserves hdetect hhash
  refine ⟨hdetect, hhash, hkeys, ⟨kept, hkept, hsub⟩, fun choose => ?_⟩
  obtain ⟨found', hfound', -, -, hsolved⟩ := hchoose choose
  exact ⟨found', hfound', hsolved⟩

end Remedy.Detection
