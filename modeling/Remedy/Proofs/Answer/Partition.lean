import Mathlib.Data.List.Nodup
import Remedy.Proofs.Answer.Written

/-!
# Sections partition an answer

A document is cut at the first occurrence of each title that it has. No two titles overlap, since a
title has its hashes in front and nowhere else; so the cuts come one after the other, and the titles
and the texts under them, put together in the order in which they stand, are the document from the
first title on.

Main results:

* `marks_apart`: the first occurrences of different titles do not overlap.
* `together_bodies`: the texts under the marks, with their titles, are what follows the first mark.
* `sections_partition`: what the sections of any document are.
-/

namespace Remedy.Answer

open Remedy.Text

/-! ## First occurrences of titles -/

/-- A part occurs in a text right behind `before`, and nowhere earlier. -/
def FirstBehind (part before text : List Char) : Prop :=
  before ++ part <+: text ∧ ∀ x, x ++ part <+: text → before.length ≤ x.length

variable {document : List Char}

theorem firstBehind_of_firstIndex? {part : String} {i : Nat}
    (h : firstIndex? document part = some i) :
    FirstBehind part.toList (document.take i) document ∧ i ≤ document.length := by
  obtain ⟨⟨before, after⟩, hcut, rfl⟩ := Option.map_eq_some_iff.mp h
  obtain ⟨hwhole, hfirst⟩ := cut?_first hcut
  have htake : document.take before.length = before := by
    rw [hwhole, List.append_assoc, List.take_left]
  refine ⟨?_, ?_⟩
  · rw [FirstBehind, htake]
    exact ⟨⟨after, hwhole.symm⟩, hfirst⟩
  · rw [hwhole, List.append_assoc, List.length_append]
    exact Nat.le_add_right _ _

theorem mem_marks {m : Nat × String} :
    m ∈ marks document ↔ m.2 ∈ titles ∧ firstIndex? document m.2 = some m.1 := by
  rw [marks, List.mem_mergeSort, List.mem_filterMap]
  constructor
  · rintro ⟨t, ht, hm⟩
    obtain ⟨i, hi, rfl⟩ := Option.map_eq_some_iff.mp hm
    exact ⟨ht, hi⟩
  · rintro ⟨ht, hi⟩
    exact ⟨m.2, ht, by rw [hi]; rfl⟩

/-- The titles that are marked are those that occur. -/
theorem mem_map_marks {t : String} :
    t ∈ (marks document).map Prod.snd ↔ t ∈ titles ∧ t.toList <:+: document := by
  rw [List.mem_map, ← cut?_isSome_iff]
  constructor
  · rintro ⟨m, hm, rfl⟩
    obtain ⟨ht, hi⟩ := mem_marks.mp hm
    obtain ⟨cut, hcut, -⟩ := Option.map_eq_some_iff.mp hi
    exact ⟨ht, by rw [hcut]; rfl⟩
  · rintro ⟨ht, hoccurs⟩
    obtain ⟨⟨before, after⟩, hcut⟩ := Option.isSome_iff_exists.mp hoccurs
    exact ⟨(before.length, t), mem_marks.mpr ⟨ht, by rw [firstIndex?, hcut]; rfl⟩, rfl⟩

theorem nodup_map_marks : ((marks document).map Prod.snd).Nodup := by
  have hperm := (List.mergeSort_perm (titles.filterMap fun t =>
    (firstIndex? document t).map fun i => (i, t)) fun a b => a.1 ≤ b.1).map Prod.snd
  refine hperm.nodup_iff.mpr ?_
  rw [List.map_filterMap]
  refine List.Nodup.filterMap (fun t u found ht hu => ?_) (by decide : titles.Nodup)
  -- a title is found under itself or not at all
  obtain ⟨_, hi, rfl⟩ := Option.map_eq_some_iff.mp ht
  obtain ⟨i, -, rfl⟩ := Option.map_eq_some_iff.mp hi
  obtain ⟨_, hj, heq⟩ := Option.map_eq_some_iff.mp hu
  obtain ⟨j, -, rfl⟩ := Option.map_eq_some_iff.mp hj
  exact heq.symm

/-- No end of a title goes together with the beginning of a title, as hashes stand only in front. -/
theorem titles_apart : ∀ t ∈ titles, ∀ u ∈ titles, t ≠ u → ∀ k < t.toList.length,
    ¬ t.toList.drop k <+: u.toList ∧ ¬ u.toList <+: t.toList.drop k := by
  decide +kernel

/-- Two titles that stand in a document do not overlap. -/
theorem length_add_le {t u : String} (ht : t ∈ titles) (hu : u ∈ titles) (hne : t ≠ u)
    {i j : Nat} (hi : t.toList <+: document.drop i) (hj : u.toList <+: document.drop j)
    (hij : i ≤ j) : i + t.length ≤ j := by
  by_contra hover
  rw [← String.length_toList] at hover
  obtain ⟨hend, hbegin⟩ := titles_apart t ht u hu hne (j - i) (by omega)
  -- what is left of the first title stands where the second begins
  have hrest : t.toList.drop (j - i) <+: document.drop j := by
    have hdrop := hi.drop (j - i)
    rwa [List.drop_drop, Nat.add_sub_cancel' hij] at hdrop
  rcases List.prefix_or_prefix_of_prefix hrest hj with h | h
  · exact hend h
  · exact hbegin h

theorem prefix_drop_of_mem_marks {m : Nat × String} (h : m ∈ marks document) :
    m.2.toList <+: document.drop m.1 := by
  obtain ⟨⟨hstands, -⟩, hle⟩ := firstBehind_of_firstIndex? (mem_marks.mp h).2
  have hdrop := hstands.drop m.1
  rwa [List.drop_left' (List.length_take_of_le hle)] at hdrop

/-- **Marks do not overlap.** Each title ends before the next one begins. -/
theorem marks_apart (document : List Char) :
    (marks document).Pairwise fun a b => a.1 + a.2.length ≤ b.1 := by
  have hsorted : (marks document).Pairwise fun a b => a.1 ≤ b.1 := by
    refine (List.pairwise_mergeSort ?_ ?_ _).imp fun h => of_decide_eq_true h
    · intro a b c hab hbc
      exact decide_eq_true ((of_decide_eq_true hab).trans (of_decide_eq_true hbc))
    · intro a b
      rw [Bool.or_eq_true, decide_eq_true_eq, decide_eq_true_eq]
      exact Nat.le_total a.1 b.1
  -- a title has one mark, so those of two marks differ
  have hdiffer : (marks document).Pairwise fun a b => a.2 ≠ b.2 :=
    List.pairwise_map.mp nodup_map_marks
  refine (hsorted.and hdiffer).imp_of_mem fun {a b} ha hb hab => ?_
  exact length_add_le (mem_marks.mp ha).1 (mem_marks.mp hb).1 hab.2 (prefix_drop_of_mem_marks ha)
    (prefix_drop_of_mem_marks hb) hab.1

/-! ## The texts under the marks -/

theorem map_fst_bodies (document : List Char) (ms : List (Nat × String)) :
    (bodies document ms).map Prod.fst = ms.map Prod.snd := by
  fun_induction bodies document ms with
  | case1 => rfl
  | case2 i t => rfl
  | case3 i t j u rest ih => rw [List.map_cons, ih]; rfl

theorem drop_bodies (document : List Char) (ms : List (Nat × String)) (k : Nat) :
    (bodies document ms).drop k = bodies document (ms.drop k) := by
  fun_induction bodies document ms generalizing k with
  | case1 => rw [List.drop_nil, List.drop_nil, bodies]
  | case2 i t =>
    cases k with
    | zero => rfl
    | succ k => rw [List.drop_succ_cons, List.drop_succ_cons, List.drop_nil, List.drop_nil, bodies]
  | case3 i t j u rest ih =>
    cases k with
    | zero => rfl
    | succ k => rw [List.drop_succ_cons, List.drop_succ_cons, ih]

/-- Titles with the texts under them, put together. -/
def together (found : List (String × List Char)) : List Char :=
  found.flatMap fun s => s.1.toList ++ s.2

theorem title_append_between {t : String} {i j : Nat} (hi : t.toList <+: document.drop i)
    (hj : i + t.length ≤ j) :
    t.toList ++ between document (i + t.length) j ++ document.drop j = document.drop i := by
  obtain ⟨rest, hrest⟩ := hi
  have hbehind : document.drop (i + t.length) = rest := by
    rw [← List.drop_drop, ← hrest, ← String.length_toList, List.drop_left]
  have hlast : document.drop j = rest.drop (j - (i + t.length)) := by
    rw [← hbehind, List.drop_drop, Nat.add_sub_cancel' hj]
  rw [between, hbehind, hlast, List.append_assoc, List.take_append_drop, hrest]

/-- A title that stands in a document ends in it. -/
theorem add_length_le_of_prefix_drop {t : String} (ht : t ∈ titles) {i : Nat}
    (hi : t.toList <+: document.drop i) : i + t.length ≤ document.length := by
  have hle := hi.length_le
  have hpos := List.length_pos_iff.mpr (title_ne_nil ht)
  rw [List.length_drop] at hle
  rw [← String.length_toList]
  omega

/-- The texts under marks that do not overlap are what stands from the first mark on. -/
theorem together_bodies {ms : List (Nat × String)}
    (hstand : ∀ m ∈ ms, m.2 ∈ titles ∧ m.2.toList <+: document.drop m.1)
    (hapart : ms.Pairwise fun a b => a.1 + a.2.length ≤ b.1) :
    together (bodies document ms) = (ms.head?.map fun m => document.drop m.1).getD [] := by
  fun_induction bodies document ms with
  | case1 => rfl
  | case2 i t =>
    obtain ⟨htitle, hfirst⟩ := hstand (i, t) List.mem_cons_self
    have hall := title_append_between hfirst (add_length_le_of_prefix_drop htitle hfirst)
    rw [List.drop_length] at hall
    exact hall
  | case3 i t j u rest ih =>
    obtain ⟨hnext, hlater⟩ := List.pairwise_cons.mp hapart
    have hrest := ih (fun m hm => hstand m (List.mem_cons_of_mem _ hm)) hlater
    rw [together, List.flatMap_cons, ← together, hrest]
    exact title_append_between (hstand (i, t) List.mem_cons_self).2 (hnext (j, u) List.mem_cons_self)

/-! ## Partitions -/

/-- What stands in front of the first mark. -/
def frontOf (document : List Char) : List Char :=
  ((marks document).head?.map fun m => document.take m.1).getD document

theorem together_bodies_drop_marks (document : List Char) (k : Nat) :
    together (bodies document ((marks document).drop k)) =
      (((marks document).drop k).head?.map fun m => document.drop m.1).getD [] := by
  have hmem : ∀ m ∈ (marks document).drop k, m ∈ marks document :=
    fun m hm => List.mem_of_mem_drop hm
  exact together_bodies
    (fun m hm => ⟨(mem_marks.mp (hmem m hm)).1, prefix_drop_of_mem_marks (hmem m hm)⟩)
    ((marks_apart document).sublist (List.drop_sublist k _))

theorem frontOf_append_together (document : List Char) :
    frontOf document ++ together (bodies document (marks document)) = document := by
  have htogether := together_bodies_drop_marks document 0
  rw [List.drop_zero] at htogether
  rw [htogether, frontOf]
  cases (marks document).head? with
  | none => exact List.append_nil document
  | some m => exact List.take_append_drop m.1 document

/-- No title stands in front of the first mark. -/
theorem frontOf_clear {t : String} (ht : t ∈ titles) : ¬ t.toList <:+: frontOf document := by
  rintro ⟨x, y, hxy⟩
  have hfront : frontOf document <+: document := ⟨_, frontOf_append_together document⟩
  have hearly : x ++ t.toList <+: document :=
    (show x ++ t.toList <+: frontOf document from ⟨y, hxy⟩).trans hfront
  -- then its mark would be at `x` or earlier, in front of the first mark
  have hoccurs : t.toList <:+: document :=
    (List.suffix_append x t.toList).isInfix.trans hearly.isInfix
  obtain ⟨m, hm, rfl⟩ := List.mem_map.mp (mem_map_marks.mpr ⟨ht, hoccurs⟩)
  obtain ⟨⟨-, hfirst⟩, hle⟩ := firstBehind_of_firstIndex? (mem_marks.mp hm).2
  have hbefore := hfirst x hearly
  rw [List.length_take_of_le hle] at hbefore
  -- but the first mark comes no later than the one of this title
  have hhead : (frontOf document).length ≤ m.1 := by
    have hapart := marks_apart document
    rw [frontOf]
    cases hmarks : marks document with
    | nil =>
      rw [hmarks] at hm
      cases hm
    | cons first rest =>
      rw [hmarks] at hm hapart
      refine (List.length_take_le first.1 document).trans ?_
      rcases List.mem_cons.mp hm with rfl | hrest
      · exact Nat.le_refl _
      · exact (Nat.le_add_right _ _).trans ((List.pairwise_cons.mp hapart).1 m hrest)
  have hlength := congrArg List.length hxy
  have hpos := List.length_pos_iff.mpr (title_ne_nil ht)
  simp only [List.length_append] at hlength
  omega

/-- Each title stands where it occurs first. -/
theorem firstBehind_of_bodies {before after : List (String × List Char)} {t : String}
    {body : List Char} (h : bodies document (marks document) = before ++ (t, body) :: after) :
    FirstBehind t.toList (frontOf document ++ together before) document := by
  -- the sections from this one on are those of the marks from its own on
  have hdrop : bodies document ((marks document).drop before.length) = (t, body) :: after := by
    rw [← drop_bodies, h, List.drop_left]
  have hrest := together_bodies_drop_marks document before.length
  rw [hdrop] at hrest
  have htitles := map_fst_bodies document ((marks document).drop before.length)
  rw [hdrop] at htitles
  cases hmarks : (marks document).drop before.length with
  | nil =>
    rw [hmarks] at htitles
    cases htitles
  | cons m ms =>
    rw [hmarks] at htitles hrest
    obtain rfl : t = m.2 := (List.cons.inj htitles).1
    have hm : m ∈ marks document := List.mem_of_mem_drop (hmarks ▸ List.mem_cons_self)
    obtain ⟨hfirst, hle⟩ := firstBehind_of_firstIndex? (mem_marks.mp hm).2
    -- what stands before the title is what is not from it on
    have hwhole : frontOf document ++ together before ++ document.drop m.1 = document := by
      have hall := frontOf_append_together document
      rw [h, together, List.flatMap_append, ← together, ← together, hrest, ← List.append_assoc] at hall
      exact hall
    have hbefore : frontOf document ++ together before = document.take m.1 :=
      List.append_cancel_right (hwhole.trans (List.take_append_drop m.1 document).symm)
    rw [hbefore]
    exact hfirst

/-- Titles with the texts under them, one after the other. -/
def joined (found : List (String × String)) : String :=
  String.join (found.map fun s => s.1 ++ s.2)

/-- The document is what stands in front of the first title and the titles that occur, each at its
first occurrence and with a text under it. -/
structure Partition (document front : String) (found : List (String × String)) : Prop where
  whole : document = front ++ joined found
  occurring : ∀ t, t ∈ found.map Prod.fst ↔ t ∈ titles ∧ t.toList <:+: document.toList
  distinct : (found.map Prod.fst).Nodup
  clear : ∀ t ∈ titles, ¬ t.toList <:+: front.toList
  first : ∀ before t body after, found = before ++ (t, body) :: after →
    FirstBehind t.toList (front ++ joined before).toList document.toList

theorem toList_joined (found : List (String × List Char)) :
    (joined (found.map fun s => (s.1, String.ofList s.2))).toList = together found := by
  induction found with
  | nil => rfl
  | cons s rest ih =>
    rw [joined, List.map_cons, List.map_cons, String.join_cons, ← joined, String.toList_append, ih,
      String.toList_append, String.toList_ofList]
    rfl

/-- **Sections partition the document.** They are the titles that occur in it, in the order of their
first occurrences, with the texts under them. Nothing after the first title is left out or stands in
two of them. -/
theorem sections_partition (document : String) :
    ∃ front found, Partition document front found ∧
      sections document = found.map (fun s => (s.1, strip s.2)) ++ [("end", "")] := by
  let cs := document.toList
  let found := bodies cs (marks cs)
  have hnames : (found.map fun s => (s.1, String.ofList s.2)).map Prod.fst =
      (marks cs).map Prod.snd := by
    rw [List.map_map]
    exact map_fst_bodies cs (marks cs)
  refine ⟨String.ofList (frontOf cs), found.map fun s => (s.1, String.ofList s.2), ?_, ?_⟩
  · constructor
    · apply String.toList_inj.mp
      rw [String.toList_append, toList_joined, String.toList_ofList]
      exact (frontOf_append_together cs).symm
    · intro t
      rw [hnames]
      exact mem_map_marks
    · rw [hnames]
      exact nodup_map_marks
    · intro t ht
      rw [String.toList_ofList]
      exact frontOf_clear ht
    · intro before t body after hsplit
      obtain ⟨before', later, hfound, rfl, hlater⟩ := List.map_eq_append_iff.mp hsplit
      obtain ⟨⟨t', body'⟩, after', rfl, heq, -⟩ := List.map_eq_cons_iff.mp hlater
      obtain ⟨rfl, -⟩ := Prod.mk.inj heq
      rw [String.toList_append, toList_joined, String.toList_ofList]
      exact firstBehind_of_bodies hfound
  · rw [sections_eq, List.map_map]
    congr 1
    refine List.map_congr_left fun s _ => ?_
    rw [Function.comp_apply, strip, String.toList_ofList]

end Remedy.Answer
