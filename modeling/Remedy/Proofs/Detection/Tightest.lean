import Remedy.Detection.SyntaxTree
import Mathlib.Data.List.Infix
import Mathlib.Tactic

/-!
# The tightest node of a tree

The tightest node that covers a range is looked for from the root downwards, pass by pass. A pass goes
through the children of the best node so far. Each child that covers the range and stays inside the
best node becomes the best node at once, while the pass goes on over the children it began with and
compares them with the new best node. The search ends with the first pass that enters no child.

Nodes are told apart by the way down to them, since equal nodes may stand at several places of a tree.

Main results:

* `tightest_of_pass`: the tightest node, computed by recursion over the tree, is the one that the
  passes lead to.
* `exists_searched`, `Searched.unique`: the search ends, in one way only.
* `Nested.pass_eq_some`: in a tree as a parser gives it, a pass enters the one child that covers the
  range, and nothing else.
* `tightest_innermost`: every node that covers the range is on the way down to the tightest one.
-/

namespace Remedy.SyntaxTree

/-! ## Places in a tree -/

/-- The node at the end of a way down, which says for each step the number of the child to enter. -/
def nodeAt? : SyntaxTree → List Nat → Option SyntaxTree
  | t, [] => some t
  | t, i :: way => t.children[i]?.bind fun child => child.nodeAt? way

theorem nodeAt?_cons_eq_some {t u : SyntaxTree} {i : Nat} {way : List Nat} :
    t.nodeAt? (i :: way) = some u ↔
      ∃ child, t.children[i]? = some child ∧ child.nodeAt? way = some u := by
  rw [nodeAt?, Option.bind_eq_some_iff]

theorem nodeAt?_append (t : SyntaxTree) (way below : List Nat) :
    t.nodeAt? (way ++ below) = (t.nodeAt? way).bind fun u => u.nodeAt? below := by
  induction way generalizing t with
  | nil => rfl
  | cons i way ih =>
    rw [List.cons_append, nodeAt?, nodeAt?]
    cases t.children[i]? with
    | none => rfl
    | some child => exact ih child

/-- What holds of a node if it holds of all its children holds of every node. -/
theorem childInduction {P : SyntaxTree → Prop}
    (node : ∀ t : SyntaxTree, (∀ child ∈ t.children, P child) → P t) (t : SyntaxTree) : P t :=
  @SyntaxTree.rec P (fun children => ∀ child ∈ children, P child)
    (fun name first last children => node (.node name first last children)) (by simp)
    (fun _ _ hchild hrest => List.forall_mem_cons.mpr ⟨hchild, hrest⟩) t

/-- A node of a tree with the way down to it. -/
structure Place where
  way : List Nat
  node : SyntaxTree

namespace Place

/-- The places directly below a place. -/
def children (p : Place) : List Place :=
  p.node.children.mapIdx fun i child => ⟨p.way ++ [i], child⟩

theorem map_node_children (p : Place) : p.children.map node = p.node.children := by
  refine List.ext_getElem? fun i => ?_
  rw [children, List.getElem?_map, List.getElem?_mapIdx, Option.map_map]
  exact Option.map_id_apply

theorem mem_children {p q : Place} :
    q ∈ p.children ↔ ∃ i child, p.node.children[i]? = some child ∧ q = ⟨p.way ++ [i], child⟩ := by
  rw [children, List.mem_mapIdx]
  constructor
  · rintro ⟨i, hi, rfl⟩
    exact ⟨i, _, List.getElem?_eq_getElem hi, rfl⟩
  · rintro ⟨i, child, hchild, rfl⟩
    obtain ⟨hi, rfl⟩ := List.getElem?_eq_some_iff.mp hchild
    exact ⟨i, hi, rfl⟩

/-! ## The search -/

variable (start stop : Int)

/-- What a pass over the children of `p` makes of one of them; `entered` is the child that the pass
has entered last, and the best node is that child or, before any child is entered, `p`. -/
def visit (p : Place) (entered : Option Place) (child : Place) : Option Place :=
  let best := (entered.getD p).node
  if child.node.covers start stop && best.first ≤ child.node.first && child.node.last ≤ best.last then
    some child
  else entered

/-- A pass over the children of a place: the child that is entered last, if any is. -/
def pass (p : Place) : Option Place :=
  p.children.foldl (p.visit start stop) none

/-- The search from one place ends at another after so many passes. -/
inductive Searched : Nat → Place → Place → Prop
  | rests {p : Place} (h : p.pass start stop = none) : Searched 1 p p
  | enters {n : Nat} {p q r : Place} (h : p.pass start stop = some q) (rest : Searched n q r) :
    Searched (n + 1) p r

end Place

open Place

section Search

variable (start stop : Int)

/-- Going through some children after others, by recursion over the tree and by passes. -/
theorem tightestAmong_eq (p : Place) (cs : List Place) (entered : Option Place) :
    tightestAmong start stop (entered.getD p).node.first (entered.getD p).node.last
        (entered.elim p.node fun q => q.node.tightest start stop) (cs.map Place.node) =
      (cs.foldl (p.visit start stop) entered).elim p.node fun q => q.node.tightest start stop := by
  induction cs generalizing entered with
  | nil => rfl
  | cons c cs ih =>
    rw [List.map_cons, tightestAmong, List.foldl_cons, visit]
    split
    · -- from here on the child is the best node, and what is found so far lies below it
      exact ih (some c)
    · exact ih entered

/-- The tightest node is the node itself if a pass enters no child, and else the tightest node below
the child that the pass enters last. -/
theorem tightest_of_pass (p : Place) :
    p.node.tightest start stop =
      (p.pass start stop).elim p.node fun q => q.node.tightest start stop := by
  have hamong := tightestAmong_eq start stop p p.children none
  rw [map_node_children] at hamong
  rw [Place.pass, ← hamong]
  obtain ⟨way, name, first, last, children⟩ := p
  rfl

theorem Place.foldl_visit_cases (p : Place) (cs : List Place) (entered : Option Place) :
    cs.foldl (p.visit start stop) entered = entered ∨
      ∃ q ∈ cs, q.node.covers start stop = true ∧
        cs.foldl (p.visit start stop) entered = some q := by
  induction cs generalizing entered with
  | nil => exact Or.inl rfl
  | cons c cs ih =>
    rw [List.foldl_cons]
    rcases ih (p.visit start stop entered c) with hsame | ⟨q, hq, hcovers, hlast⟩
    · rw [hsame, visit]
      split
      · rename_i hc
        rw [Bool.and_eq_true, Bool.and_eq_true] at hc
        exact Or.inr ⟨c, List.mem_cons_self, hc.1.1, rfl⟩
      · exact Or.inl rfl
    · exact Or.inr ⟨q, List.mem_cons_of_mem _ hq, hcovers, hlast⟩

end Search

variable {start stop : Int}

namespace Place

/-- A pass enters a child, and one that covers the range. -/
theorem exists_of_pass {p q : Place} (h : p.pass start stop = some q) :
    ∃ i child, p.node.children[i]? = some child ∧ q = ⟨p.way ++ [i], child⟩ ∧
      child.covers start stop = true := by
  rw [pass] at h
  rcases foldl_visit_cases start stop p p.children none with hsame | ⟨r, hr, hcovers, hlast⟩
  · rw [h] at hsame
    cases hsame
  · rw [h] at hlast
    cases hlast
    obtain ⟨i, child, hchild, rfl⟩ := mem_children.mp hr
    exact ⟨i, child, hchild, rfl, hcovers⟩

/-- The search from every place ends. -/
theorem exists_searched (start stop : Int) (t : SyntaxTree) (way : List Nat) :
    ∃ n q, Searched start stop n ⟨way, t⟩ q := by
  -- each pass goes down by one level of the tree
  induction t using childInduction generalizing way with
  | node t ih =>
    cases hpass : pass start stop ⟨way, t⟩ with
    | none => exact ⟨1, _, .rests hpass⟩
    | some q =>
      obtain ⟨i, child, hchild, rfl, -⟩ := exists_of_pass hpass
      obtain ⟨n, r, hrest⟩ := ih child (List.mem_of_getElem? hchild) (way ++ [i])
      exact ⟨n + 1, r, .enters hpass hrest⟩

namespace Searched

variable {n m : Nat} {p q r : Place}

/-- The search has one end only. -/
theorem unique (hq : Searched start stop n p q) (hr : Searched start stop m p r) :
    n = m ∧ q = r := by
  induction hq generalizing m with
  | rests hpass =>
    cases hr with
    | rests => exact ⟨rfl, rfl⟩
    | enters hpass' rest =>
      rw [hpass] at hpass'
      cases hpass'
  | enters hpass rest ih =>
    cases hr with
    | rests hpass' =>
      rw [hpass] at hpass'
      cases hpass'
    | enters hpass' rest' =>
      rw [hpass] at hpass'
      cases hpass'
      obtain ⟨rfl, rfl⟩ := ih rest'
      exact ⟨rfl, rfl⟩

/-- The search ends at the tightest node. -/
theorem node_eq (h : Searched start stop n p q) : q.node = p.node.tightest start stop := by
  induction h with
  | rests hpass =>
    rw [tightest_of_pass, hpass]
    rfl
  | enters hpass rest ih =>
    rw [tightest_of_pass, hpass]
    exact ih

/-- The search goes down from the place where it begins, by one step in each pass but the last. -/
theorem exists_way (h : Searched start stop n p q) :
    ∃ way, q.way = p.way ++ way ∧ p.node.nodeAt? way = some q.node ∧ n = way.length + 1 := by
  induction h with
  | rests => exact ⟨[], by simp, rfl, rfl⟩
  | enters hpass rest ih =>
    obtain ⟨i, child, hchild, rfl, -⟩ := exists_of_pass hpass
    obtain ⟨way, hway, hnode, rfl⟩ := ih
    refine ⟨i :: way, ?_, nodeAt?_cons_eq_some.mpr ⟨child, hchild, hnode⟩, rfl⟩
    rw [hway, List.append_assoc, List.singleton_append]

/-- The range stays covered on the way down. -/
theorem covers (h : Searched start stop n p q) (hp : p.node.covers start stop = true) :
    q.node.covers start stop = true := by
  induction h with
  | rests => exact hp
  | enters hpass rest ih =>
    obtain ⟨i, child, -, rfl, hcovers⟩ := exists_of_pass hpass
    exact ih hcovers

end Searched
end Place

/-! ## Trees as a parser gives them -/

/-- Two nodes have no byte in common. -/
def Apart (a b : SyntaxTree) : Prop :=
  ∀ byte, ¬ (a.first ≤ byte ∧ byte < a.last ∧ b.first ≤ byte ∧ byte < b.last)

/-- Each child lies within its parent, and siblings have no byte in common. -/
inductive Nested : SyntaxTree → Prop
  | node {t : SyntaxTree} (within : ∀ child ∈ t.children, t.first ≤ child.first ∧ child.last ≤ t.last)
    (apart : t.children.Pairwise Apart) (below : ∀ child ∈ t.children, Nested child) : Nested t

theorem nested_node {name : String} {first last : Int} {children : List SyntaxTree} :
    (SyntaxTree.node name first last children).Nested ↔
      (∀ child ∈ children, first ≤ child.first ∧ child.last ≤ last) ∧
        children.Pairwise Apart ∧ ∀ child ∈ children, child.Nested := by
  constructor
  · rintro ⟨within, apart, below⟩
    exact ⟨within, apart, below⟩
  · rintro ⟨within, apart, below⟩
    exact .node within apart below

theorem apart_iff {a b : SyntaxTree} :
    Apart a b ↔ min a.last b.last ≤ max a.first b.first := by
  constructor
  · intro h
    have hfirst := h (max a.first b.first)
    omega
  · intro h byte
    omega

theorem covers_iff {t : SyntaxTree} :
    t.covers start stop = true ↔ t.first ≤ start ∧ stop ≤ t.last := by
  rw [covers, Bool.and_eq_true, decide_eq_true_eq, decide_eq_true_eq]

/-- Of two nodes without a common byte at most one covers a range that is not empty. -/
theorem Apart.not_both_cover {a b : SyntaxTree} (h : Apart a b) (hrange : start < stop)
    (ha : a.covers start stop = true) : b.covers start stop = false := by
  rw [← Bool.not_eq_true, covers_iff]
  rw [covers_iff] at ha
  rintro ⟨hfirst, hlast⟩
  -- the first byte of the range would lie in both
  exact h start ⟨ha.1, by omega, hfirst, by omega⟩

theorem Apart.symm {a b : SyntaxTree} (h : Apart a b) : Apart b a :=
  fun byte ⟨hb, hb', ha, ha'⟩ => h byte ⟨ha, ha', hb, hb'⟩

namespace Nested

variable {t : SyntaxTree}

/-- Every node of a nested tree lies within the root. -/
theorem within_root (h : t.Nested) {way : List Nat} {u : SyntaxTree}
    (hu : t.nodeAt? way = some u) : t.first ≤ u.first ∧ u.last ≤ t.last := by
  induction way generalizing t with
  | nil =>
    cases hu
    exact ⟨le_rfl, le_rfl⟩
  | cons i way ih =>
    obtain ⟨child, hchild, hu⟩ := nodeAt?_cons_eq_some.mp hu
    obtain ⟨within, -, below⟩ := h
    have hmem := List.mem_of_getElem? hchild
    have hparent := within child hmem
    have hbelow := ih (below child hmem) hu
    omega

/-- Every node of a nested tree is nested itself. -/
theorem nodeAt? (h : t.Nested) {way : List Nat} {u : SyntaxTree}
    (hu : t.nodeAt? way = some u) : u.Nested := by
  induction way generalizing t with
  | nil =>
    cases hu
    exact h
  | cons i way ih =>
    obtain ⟨child, hchild, hu⟩ := nodeAt?_cons_eq_some.mp hu
    obtain ⟨-, -, below⟩ := h
    exact ih (below child (List.mem_of_getElem? hchild)) hu

theorem foldl_visit_of_not_covers {p : Place} {cs : List Place}
    (h : ∀ c ∈ cs, c.node.covers start stop = false) (entered : Option Place) :
    cs.foldl (p.visit start stop) entered = entered := by
  rcases foldl_visit_cases start stop p cs entered with hsame | ⟨q, hq, hcovers, -⟩
  · exact hsame
  · rw [h q hq] at hcovers
    cases hcovers

/-- In a nested tree a pass enters the child that covers the range, if there is one: none of its
siblings covers the range, so the order of the children does not matter. -/
theorem pass_eq_some {p : Place} (h : p.node.Nested) (hrange : start < stop) {i : Nat}
    {child : SyntaxTree} (hchild : p.node.children[i]? = some child)
    (hcovers : child.covers start stop = true) :
    p.pass start stop = some ⟨p.way ++ [i], child⟩ := by
  obtain ⟨within, apart, -⟩ := h
  have hinside := within child (List.mem_of_getElem? hchild)
  have hmem : ⟨p.way ++ [i], child⟩ ∈ p.children := mem_children.mpr ⟨i, child, hchild, rfl⟩
  obtain ⟨before, after, hsplit⟩ := List.append_of_mem hmem
  rw [← map_node_children, hsplit, List.pairwise_map, List.pairwise_append,
    List.pairwise_cons] at apart
  obtain ⟨-, ⟨hlater, -⟩, hearlier⟩ := apart
  have hbefore : ∀ c ∈ before, c.node.covers start stop = false := fun c hc =>
    (hearlier c hc _ List.mem_cons_self).symm.not_both_cover hrange hcovers
  have hafter : ∀ c ∈ after, c.node.covers start stop = false := fun c hc =>
    (hlater c hc).not_both_cover hrange hcovers
  have henter : p.visit start stop none ⟨p.way ++ [i], child⟩ = some ⟨p.way ++ [i], child⟩ := by
    rw [visit, if_pos]
    simp [hcovers, hinside]
  rw [Place.pass, hsplit, List.foldl_append, foldl_visit_of_not_covers hbefore, List.foldl_cons,
    henter, foldl_visit_of_not_covers hafter]

/-- Every node that covers the range lies on the way of the search. -/
theorem on_way (h : t.Nested) (hrange : start < stop) {n : Nat} {above way : List Nat}
    {q : Place} (hsearch : Searched start stop n ⟨above, t⟩ q) (hway : q.way = above ++ way)
    {other : List Nat} {u : SyntaxTree} (hu : t.nodeAt? other = some u)
    (hcovers : u.covers start stop = true) : other <+: way := by
  induction other generalizing t n above way with
  | nil => exact List.nil_prefix
  | cons i other ih =>
    obtain ⟨child, hchild, hu⟩ := nodeAt?_cons_eq_some.mp hu
    have hbelow : child.Nested := by
      obtain ⟨-, -, below⟩ := h
      exact below child (List.mem_of_getElem? hchild)
    -- the child is on the way to `u`, so it covers what `u` covers
    have hchildCovers : child.covers start stop = true := by
      have hwithin := hbelow.within_root hu
      rw [covers_iff] at hcovers ⊢
      omega
    have hpass := pass_eq_some (p := ⟨above, t⟩) h hrange hchild hchildCovers
    cases hsearch with
    | rests hnone =>
      rw [hpass] at hnone
      cases hnone
    | enters hsome rest =>
      rw [hpass] at hsome
      cases hsome
      obtain ⟨below, hqway, -, -⟩ := rest.exists_way
      have hsplit : way = i :: below := by
        rw [hway, List.append_assoc] at hqway
        exact List.append_cancel_left hqway
      rw [hsplit, List.cons_prefix_cons]
      exact ⟨rfl, ih hbelow rest hqway hu⟩

end Nested

/-! ## The tightest node -/

/-- The search for the tightest node ends in every tree, and at one node only. In a nested tree whose
root covers a range that is not empty, the node found covers it, and every node of the tree that
covers it is the node found or stands above it, so that none is narrower. -/
theorem tightest_innermost (t : SyntaxTree) (start stop : Int) :
    ∃ way, t.nodeAt? way = some (t.tightest start stop) ∧
      (∀ n q, Searched start stop n ⟨[], t⟩ q ↔
        n = way.length + 1 ∧ q = ⟨way, t.tightest start stop⟩) ∧
      (t.Nested → start < stop → t.covers start stop = true →
        (t.tightest start stop).covers start stop = true ∧
        ∀ other u, t.nodeAt? other = some u → u.covers start stop = true →
          other <+: way ∧ u.first ≤ (t.tightest start stop).first ∧
            (t.tightest start stop).last ≤ u.last) := by
  obtain ⟨n, q, hsearch⟩ := exists_searched start stop t []
  obtain ⟨way, hway, hnode, rfl⟩ := hsearch.exists_way
  rw [List.nil_append] at hway
  have htight : q.node = t.tightest start stop := hsearch.node_eq
  have hq : q = ⟨way, t.tightest start stop⟩ := by
    rw [← hway, ← htight]
  rw [htight] at hnode
  refine ⟨way, hnode, fun m r => ⟨fun hr => ?_, ?_⟩, fun hnested hrange hroot => ⟨?_, ?_⟩⟩
  · obtain ⟨hpasses, hend⟩ := hr.unique hsearch
    exact ⟨hpasses, hend.trans hq⟩
  · rintro ⟨rfl, rfl⟩
    exact hq ▸ hsearch
  · rw [← htight]
    exact hsearch.covers hroot
  · intro other u hu hcovers
    have hprefix : other <+: way := hnested.on_way hrange hsearch hway hu hcovers
    obtain ⟨below, rfl⟩ := hprefix
    -- from `u` the rest of the way leads to the tightest node
    have hbelow : u.nodeAt? below = some (t.tightest start stop) := by
      rw [nodeAt?_append, hu] at hnode
      exact hnode
    exact ⟨List.prefix_append other below, (hnested.nodeAt? hu).within_root hbelow⟩

/-- A tree in which a child is as wide as its parent, siblings touch, and one node is empty. -/
def layered : SyntaxTree :=
  .node "program" 0 20 [.node "class" 0 20 [
    .node "head" 0 10 [],
    .node "body" 10 20 [.node "missing" 10 10 [], .node "field" 10 15 [], .node "end" 15 20 []]]]

theorem nested_layered : layered.Nested := by
  simp [layered, nested_node, apart_iff, first, last]

theorem tightest_innermost_layered :
    layered.Nested ∧ (10 : Int) < 14 ∧ layered.covers 10 14 = true ∧
      ∃ way, layered.nodeAt? way = some (layered.tightest 10 14) ∧
        (layered.tightest 10 14).covers 10 14 = true ∧
        ∀ other u, layered.nodeAt? other = some u → u.covers 10 14 = true → other <+: way := by
  refine ⟨nested_layered, by decide, by decide, ?_⟩
  obtain ⟨way, hway, -, hall⟩ := tightest_innermost layered 10 14
  obtain ⟨hcovers, hothers⟩ := hall nested_layered (by decide) (by decide)
  exact ⟨way, hway, hcovers, fun other u hu hu' => (hothers other u hu hu').1⟩

example : (layered.tightest 10 14).name = "field" := by decide

end Remedy.SyntaxTree
