import Remedy.Batch
import Remedy.Proofs.Json.Quantity
import Mathlib.Data.List.SplitBy

/-!
# Batches of incidents

Incidents are sorted by their key and then cut wherever the key changes. Sorting brings together what
has the same key, so that no batch is split, and it is stable, so that inside a batch incidents keep
their order.

Main results:

* `keyPrecedes_iff`: keys are ordered text by text, and texts by their code points.
* `pairwise_lt_of_runs`: where neighbouring runs of a sorted list differ, all runs do.
* `sublist_of_mem_runs`: the runs of the sorted list keep the order of the items.
* `described_batched`: how items are batched in each mode.
-/

namespace Remedy.Batch

/-! ## The order of keys -/

/-- A key as the code points of its texts. -/
def rank (key : List String) : List (List Nat) := key.map Text.codes

theorem rank_injective : Function.Injective rank :=
  List.map_injective_iff.mpr Text.codes_injective

theorem keyPrecedes_iff {j k : List String} : keyPrecedes j k = true ↔ rank j ≤ rank k := by
  rw [← not_lt]
  induction j generalizing k with
  | nil => simp [keyPrecedes, rank]
  | cons a j ih =>
    cases k with
    | nil => simp [keyPrecedes, rank]
    | cons b k =>
      rw [keyPrecedes, rank, rank, List.map_cons, List.map_cons, List.cons_lt_cons_iff]
      by_cases hab : a = b
      · rw [if_pos hab, ih, hab]
        simp [rank]
      · have hne : Text.codes b ≠ Text.codes a := fun h => hab (Text.codes_injective h).symm
        rw [if_neg hab, Text.precedes_iff, ← not_lt]
        simp [hne]

section Runs

variable {α : Type} {key : α → List String}

/-- The items, sorted by their keys. -/
def sorted (key : α → List String) (items : List α) : List α :=
  items.mergeSort fun a b => keyPrecedes (key a) (key b)

/-- The items of a list, cut where the key changes. -/
def runs (key : α → List String) (items : List α) : List (List α) :=
  items.splitBy fun a b => key a == key b

theorem keyPrecedes_trans (a b c : α) (hab : keyPrecedes (key a) (key b) = true)
    (hbc : keyPrecedes (key b) (key c) = true) : keyPrecedes (key a) (key c) = true := by
  rw [keyPrecedes_iff] at hab hbc ⊢
  exact hab.trans hbc

theorem keyPrecedes_total (a b : α) :
    (keyPrecedes (key a) (key b) || keyPrecedes (key b) (key a)) = true := by
  rw [Bool.or_eq_true, keyPrecedes_iff, keyPrecedes_iff]
  exact le_total _ _

theorem pairwise_sorted (items : List α) :
    (sorted key items).Pairwise fun a b => rank (key a) ≤ rank (key b) := by
  have hsorted := List.pairwise_mergeSort (@keyPrecedes_trans _ key) keyPrecedes_total items
  exact hsorted.imp fun h => keyPrecedes_iff.mp h

/-- Sorting keeps the order of the items that have one key. -/
theorem filter_sorted (items : List α) (k : List String) :
    (sorted key items).filter (key · = k) = items.filter (key · = k) := by
  have hsame : (items.filter (key · = k)).Pairwise
      fun a b => keyPrecedes (key a) (key b) = true := by
    refine List.pairwise_of_forall_mem_list fun a ha b hb => ?_
    have hka : key a = k := by simpa using (List.mem_filter.mp ha).2
    have hkb : key b = k := by simpa using (List.mem_filter.mp hb).2
    rw [keyPrecedes_iff, hka, hkb]
  -- those items are in order as they stand, so a stable sort keeps them as they are among the others
  have hsub := List.sublist_mergeSort keyPrecedes_trans keyPrecedes_total hsame List.filter_sublist
  have hfilter := hsub.filter (key · = k)
  rw [List.filter_filter] at hfilter
  simp only [Bool.and_self] at hfilter
  -- and it adds none to them
  refine (hfilter.eq_of_length ?_).symm
  exact ((List.mergeSort_perm items _).filter _).length_eq.symm

theorem key_eq_of_mem_runs {items run : List α} (h : run ∈ runs key items) {x y : α} (hx : x ∈ run)
    (hy : y ∈ run) : key x = key y := by
  have hchain := List.isChain_of_mem_splitBy h
  have hpair : run.Pairwise fun a b => key a = key b := by
    refine List.isChain_iff_pairwise.mp (hchain.imp fun a b hab => ?_)
    simpa using hab
  exact List.Pairwise.forall_of_forall_of_flip (R := fun a b => key a = key b) (fun _ _ => rfl) hpair
    (hpair.imp fun hab => hab.symm) hx hy

/-- Runs of a sorted list of which neighbours differ are in strict order, all of them. -/
theorem pairwise_lt_of_runs {rs : List (List α)}
    (hsame : ∀ r ∈ rs, ∀ x ∈ r, ∀ y ∈ r, key x = key y)
    (hsorted : rs.Pairwise fun r s => ∀ x ∈ r, ∀ y ∈ s, rank (key x) ≤ rank (key y))
    (hdiffer : rs.IsChain fun r s =>
      ∃ (hr : r ≠ []) (hs : s ≠ []), (key (r.getLast hr) == key (s.head hs)) = false) :
    rs.Pairwise fun r s => ∀ x ∈ r, ∀ y ∈ s, rank (key x) < rank (key y) := by
  induction rs with
  | nil => exact .nil
  | cons r rs ih =>
    rw [List.pairwise_cons] at hsorted
    have hrest := ih (fun s hs => hsame s (List.mem_cons_of_mem _ hs)) hsorted.2 hdiffer.tail
    refine List.pairwise_cons.mpr ⟨?_, hrest⟩
    cases rs with
    | nil => simp
    | cons s rs =>
      obtain ⟨⟨hr, hs, hne⟩, -⟩ := List.isChain_cons_cons.mp hdiffer
      -- the next run comes after this one: not before it, and with another key
      have hnext : ∀ x ∈ r, ∀ y ∈ s, rank (key x) < rank (key y) := by
        intro x hx y hy
        refine lt_of_le_of_ne (hsorted.1 s List.mem_cons_self x hx y hy) fun heq => ?_
        have hlast := hsame r List.mem_cons_self x hx _ (List.getLast_mem hr)
        have hhead := hsame s (by simp) y hy _ (List.head_mem hs)
        rw [beq_eq_false_iff_ne, ← hlast, ← hhead] at hne
        exact hne (rank_injective heq)
      intro t ht x hx z hz
      rcases List.mem_cons.mp ht with rfl | ht
      · exact hnext x hx z hz
      · -- any later run comes after the next one
        have hlater := (List.pairwise_cons.mp hrest).1 t ht _ (List.head_mem hs) z hz
        exact (hnext x hx _ (List.head_mem hs)).trans hlater

theorem pairwise_runs_sorted (items : List α) :
    (runs key (sorted key items)).Pairwise
      fun r s => ∀ x ∈ r, ∀ y ∈ s, rank (key x) < rank (key y) := by
  refine pairwise_lt_of_runs (fun r hr x hx y hy => key_eq_of_mem_runs hr hx hy) ?_
    (List.isChain_getLast_head_splitBy (fun a b => key a == key b) _)
  have hflat : (runs key (sorted key items)).flatten.Pairwise
      fun a b => rank (key a) ≤ rank (key b) := by
    rw [runs, List.flatten_splitBy]
    exact pairwise_sorted items
  exact (List.pairwise_flatten.mp hflat).2

/-- A run of the sorted items has its items in the order in which they came. -/
theorem sublist_of_mem_runs {items run : List α} (h : run ∈ runs key (sorted key items)) :
    run.Sublist items := by
  cases hrun : run with
  | nil => exact List.nil_sublist items
  | cons x rest =>
    have hx : x ∈ run := by simp [hrun]
    have hsub : run.Sublist (sorted key items) := by
      have hflat := List.sublist_flatten_of_mem h
      rwa [runs, List.flatten_splitBy] at hflat
    -- a run is a part of the sorted items that have its key, and these are in their order
    have hall : run.filter (key · = key x) = run := by
      rw [List.filter_eq_self]
      intro y hy
      simpa using key_eq_of_mem_runs h hy hx
    rw [← hrun, ← hall]
    refine (hsub.filter (key · = key x)).trans ?_
    rw [filter_sorted]
    exact List.filter_sublist

end Runs

/-! ## Batches -/

section Batches

variable {α : Type}

/-- What items of a batch share in a mode, and items of different batches do not. -/
def SameKey (mode : BatchMode) (incident : α → ExtendedIncident) (x y : α) : Prop :=
  match mode with
  | .none => x = y
  | .singleGroup => True
  | .ruleset => (incident x).ruleset = (incident y).ruleset
  | .violation =>
    (incident x).ruleset = (incident y).ruleset ∧ (incident x).violation = (incident y).violation

theorem SameKey.symm {mode : BatchMode} {incident : α → ExtendedIncident} {x y : α}
    (h : SameKey mode incident x y) : SameKey mode incident y x := by
  cases mode with
  | none => exact Eq.symm h
  | singleGroup => trivial
  | ruleset => exact Eq.symm h
  | violation => exact ⟨h.1.symm, h.2.symm⟩

theorem sameKey_iff {mode : BatchMode} (hmode : mode ≠ .none) {incident : α → ExtendedIncident}
    {x y : α} : SameKey mode incident x y ↔ mode.key (incident x) = mode.key (incident y) := by
  cases mode with
  | none => exact absurd rfl hmode
  | singleGroup => simp [SameKey, BatchMode.key]
  | ruleset => simp [SameKey, BatchMode.key]
  | violation => simp [SameKey, BatchMode.key]

theorem SameKey.common_eq {mode : BatchMode} {incident : α → ExtendedIncident} {x y : α}
    (h : SameKey mode incident x y) : mode.common (incident x) = mode.common (incident y) := by
  cases mode with
  | none => rfl
  | singleGroup => rfl
  | ruleset => rw [BatchMode.common, BatchMode.common, show (incident x).ruleset = _ from h]
  | violation => rw [BatchMode.common, BatchMode.common, h.1, h.2]

/-- Items in batches, each with the entries that it states. -/
structure Batched (mode : BatchMode) (incident : α → ExtendedIncident) (items : List α)
    (batches : List (Fields × List α)) : Prop where
  /-- No item is lost, and none is repeated. -/
  perm : (batches.flatMap Prod.snd).Perm items
  nonempty : ∀ b ∈ batches, b.2 ≠ []
  shared : ∀ b ∈ batches, ∀ x ∈ b.2, ∀ y ∈ b.2, SameKey mode incident x y
  stated : ∀ b ∈ batches, ∀ x ∈ b.2, b.1 = mode.common (incident x)
  /-- What is shared in one batch is shared with no other. -/
  apart : batches.Pairwise fun b c => ∀ x ∈ b.2, ∀ y ∈ c.2, ¬ SameKey mode incident x y
  ordered : mode ≠ .none → batches.Pairwise fun b c =>
    ∀ x ∈ b.2, ∀ y ∈ c.2, rank (mode.key (incident x)) < rank (mode.key (incident y))
  /-- Inside a batch items stand in the order in which they came. -/
  inOrder : ∀ b ∈ batches, b.2.Sublist items

theorem group_eq_runs {mode : BatchMode} (hmode : mode ≠ .none) (incident : α → ExtendedIncident)
    (items : List α) :
    group mode incident items =
      runs (fun x => mode.key (incident x)) (sorted (fun x => mode.key (incident x)) items) := by
  cases mode with
  | none => exact absurd rfl hmode
  | singleGroup => rfl
  | ruleset => rfl
  | violation => rfl

/-- A batch states what any of its items would, if they share a key. -/
theorem commonOf_eq {mode : BatchMode} {incident : α → ExtendedIncident} {batch : List α}
    (hshared : ∀ x ∈ batch, ∀ y ∈ batch, SameKey mode incident x y) {x : α} (hx : x ∈ batch) :
    commonOf mode incident batch = mode.common (incident x) := by
  cases batch with
  | nil => cases hx
  | cons first rest => exact (hshared first List.mem_cons_self x hx).common_eq

theorem flatMap_described (mode : BatchMode) (incident : α → ExtendedIncident) (items : List α) :
    (described mode incident items).flatMap Prod.snd = (group mode incident items).flatten := by
  rw [described, List.flatMap_map, ← List.flatMap_id]
  rfl

theorem mem_described {mode : BatchMode} {incident : α → ExtendedIncident} {items : List α}
    {b : Fields × List α} (h : b ∈ described mode incident items) :
    b.2 ∈ group mode incident items ∧ b.1 = commonOf mode incident b.2 := by
  obtain ⟨batch, hbatch, rfl⟩ := List.mem_map.mp h
  exact ⟨hbatch, rfl⟩

/-- Sorting and cutting gives batches as they are to be. -/
theorem batched_of_runs {mode : BatchMode} (hmode : mode ≠ .none) (incident : α → ExtendedIncident)
    (items : List α) : Batched mode incident items (described mode incident items) := by
  have hgroup := group_eq_runs hmode incident items
  have hordered := @pairwise_runs_sorted _ (fun x => mode.key (incident x)) items
  rw [← hgroup] at hordered
  have hshared : ∀ batch ∈ group mode incident items, ∀ x ∈ batch, ∀ y ∈ batch,
      SameKey mode incident x y := by
    intro batch hbatch x hx y hy
    rw [hgroup] at hbatch
    exact (sameKey_iff hmode).mpr (key_eq_of_mem_runs hbatch hx hy)
  constructor
  case perm =>
    rw [flatMap_described, hgroup, runs, List.flatten_splitBy]
    exact List.mergeSort_perm items _
  case nonempty =>
    intro b hb
    have hmem := (mem_described hb).1
    rw [hgroup] at hmem
    exact List.ne_nil_of_mem_splitBy hmem
  case shared => exact fun b hb => hshared b.2 (mem_described hb).1
  case stated =>
    intro b hb x hx
    rw [(mem_described hb).2]
    exact commonOf_eq (hshared b.2 (mem_described hb).1) hx
  case apart =>
    refine List.pairwise_map.mpr (hordered.imp fun hlt x hx y hy hsame => ?_)
    -- the keys of two batches differ because one comes strictly before the other
    have hkey := (sameKey_iff hmode).mp hsame
    exact absurd (congrArg rank hkey) (hlt x hx y hy).ne
  case ordered => exact fun _ => List.pairwise_map.mpr hordered
  case inOrder =>
    intro b hb
    have hmem := (mem_described hb).1
    rw [hgroup] at hmem
    exact sublist_of_mem_runs hmem

/-- Different items, each a batch of its own, are batches as they are to be. -/
theorem batched_singly (incident : α → ExtendedIncident) {items : List α} (h : items.Nodup) :
    Batched .none incident items (described .none incident items) := by
  have hgroup : group .none incident items = items.map fun x => [x] := rfl
  have hmem : ∀ b ∈ described .none incident items, ∃ x ∈ items, b = ([], [x]) := by
    intro b hb
    obtain ⟨hbatch, hcommon⟩ := mem_described hb
    rw [hgroup] at hbatch
    obtain ⟨x, hx, hsingle⟩ := List.mem_map.mp hbatch
    exact ⟨x, hx, Prod.ext (by rw [hcommon, ← hsingle]; rfl) hsingle.symm⟩
  constructor
  case perm =>
    rw [flatMap_described, hgroup, ← List.flatMap_def, List.flatMap_singleton']
  case nonempty =>
    intro b hb
    obtain ⟨x, -, rfl⟩ := hmem b hb
    exact List.cons_ne_nil x []
  case shared =>
    intro b hb y hy z hz
    obtain ⟨x, -, rfl⟩ := hmem b hb
    rw [List.mem_singleton] at hy hz
    exact hy.trans hz.symm
  case stated =>
    intro b hb y _
    obtain ⟨x, -, rfl⟩ := hmem b hb
    rfl
  case apart =>
    rw [described, hgroup, List.map_map, List.pairwise_map]
    refine h.imp fun hne y hy z hz hsame => ?_
    rw [List.mem_singleton.mp hy, List.mem_singleton.mp hz] at hsame
    exact hne hsame
  case ordered => exact fun hnone => absurd rfl hnone
  case inOrder =>
    intro b hb
    obtain ⟨x, hx, rfl⟩ := hmem b hb
    exact List.singleton_sublist.mpr hx

/-- If every item is a batch, the batches may come in any order. -/
theorem Batched.of_perm {incident : α → ExtendedIncident} {items : List α}
    {batches batches' : List (Fields × List α)} (h : Batched .none incident items batches)
    (hperm : batches'.Perm batches) : Batched .none incident items batches' where
  perm := (hperm.flatMap_right Prod.snd).trans h.perm
  nonempty b hb := h.nonempty b (hperm.mem_iff.mp hb)
  shared b hb := h.shared b (hperm.mem_iff.mp hb)
  stated b hb := h.stated b (hperm.mem_iff.mp hb)
  apart := by
    refine (hperm.pairwise_iff ?_).mpr h.apart
    intro b c hbc y hy x hx hsame
    exact hbc x hx y hy hsame.symm
  ordered hnone := absurd rfl hnone
  inOrder b hb := h.inOrder b (hperm.mem_iff.mp hb)

/-- How different items are batched in each mode. Where every item is a batch of its own, the batches
may come in any order. -/
theorem described_batched (mode : BatchMode) (incident : α → ExtendedIncident) {items : List α}
    (hdistinct : items.Nodup) {batches : List (Fields × List α)}
    (hbatches : batches = described mode incident items ∨
      mode = .none ∧ batches.Perm (described mode incident items)) :
    Batched mode incident items batches := by
  rcases hbatches with rfl | ⟨rfl, hperm⟩
  · by_cases hmode : mode = .none
    · subst hmode
      exact batched_singly incident hdistinct
    · exact batched_of_runs hmode incident items
  · exact (batched_singly incident hdistinct).of_perm hperm

end Batches

/-- Incidents of two rule sets that alternate. -/
def alternating (n : Nat) : ExtendedIncident :=
  { uri := "file:///A.java", message := "m", ruleset := if n % 2 = 0 then "quarkus" else "jakarta",
    violation := if n < 2 then "imports" else "beans" }

/-- Their batches: the first incident comes last, and two that are apart come together. -/
def alternatingBatches : List (Fields × List Nat) :=
  [([("ruleset_name", .str "jakarta"), ("violation_name", .str "imports")], [1]),
   ([("ruleset_name", .str "quarkus"), ("violation_name", .str "beans")], [2, 4]),
   ([("ruleset_name", .str "quarkus"), ("violation_name", .str "imports")], [0])]

theorem described_batched_alternating :
    [0, 2, 1, 4].Nodup ∧ alternatingBatches = described .violation alternating [0, 2, 1, 4] ∧
      Batched .violation alternating [0, 2, 1, 4] alternatingBatches := by
  have hsorted : sorted (fun n => BatchMode.violation.key (alternating n)) [0, 2, 1, 4] =
      [1, 2, 4, 0] := by
    simp +decide [sorted, List.mergeSort]
  have hdescribed : alternatingBatches = described .violation alternating [0, 2, 1, 4] := by
    rw [described, group_eq_runs (by decide), hsorted]
    decide
  exact ⟨by decide, hdescribed,
    described_batched .violation alternating (by decide) (.inl hdescribed)⟩

end Remedy.Batch
