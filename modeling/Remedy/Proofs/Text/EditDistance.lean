import Remedy.Text.EditDistance
import Mathlib.Order.Bounds.Basic
import Mathlib.Tactic

/-!
# The edit distance is the length of a shortest script

An edit inserts, deletes or replaces one character, and a script is a list of edits. The distance of
two texts is computed row by row, and where two characters agree it takes the entry diagonally above
without comparing it with the others. That this is the least number of edits is shown through
alignments: pairings of the two texts from left to right, of which each character that is not paired
with an equal one costs an edit.

Main results:

* `Aligned.exists_script`, `exists_aligned_of_script`: an alignment is as good as a script.
* `Aligned.exists_tail`: pairing two equal first characters is never worse than another alignment.
* `IsRow.nextRow`: each row holds the least costs of the beginnings of the shorter text.
* `editDistance_isLeast`: the distance is the least length of a script.
-/

namespace Remedy.Text

/-! ## Scripts -/

/-- A change of one character. -/
inductive Edit where
  /-- Puts a character in front of the one at a place, or at the end. -/
  | insert (place : Nat) (c : Char)
  | delete (place : Nat)
  | replace (place : Nat) (c : Char)
deriving DecidableEq, Repr

namespace Edit

/-- What an edit makes of a text, if the text has the place. -/
def run? (cs : List Char) : Edit → Option (List Char)
  | .insert i c => if i ≤ cs.length then some (cs.take i ++ c :: cs.drop i) else none
  | .delete i => if i < cs.length then some (cs.eraseIdx i) else none
  | .replace i c => if i < cs.length then some (cs.set i c) else none

/-- The edit one place further on. -/
def shifted : Edit → Edit
  | .insert i c => .insert (i + 1) c
  | .delete i => .delete (i + 1)
  | .replace i c => .replace (i + 1) c

theorem run?_shifted (e : Edit) (c : Char) (cs : List Char) :
    e.shifted.run? (c :: cs) = (e.run? cs).map (c :: ·) := by
  cases e with
  | insert i d =>
    by_cases hi : i ≤ cs.length
    · simp [shifted, run?, hi]
    · simp [shifted, run?, hi]
  | delete i =>
    by_cases hi : i < cs.length
    · simp [shifted, run?, hi]
    · simp [shifted, run?, hi]
  | replace i d =>
    by_cases hi : i < cs.length
    · simp [shifted, run?, hi]
    · simp [shifted, run?, hi]

/-- An edit puts at most one character in the place of at most one. -/
theorem exists_of_run? {e : Edit} {cs ds : List Char} (h : e.run? cs = some ds) :
    ∃ x u v y, cs = x ++ (u ++ y) ∧ ds = x ++ (v ++ y) ∧ u.length ≤ 1 ∧ v.length ≤ 1 := by
  cases e with
  | insert i c =>
    rw [run?, Option.ite_none_right_eq_some] at h
    obtain ⟨hi, hds⟩ := h
    refine ⟨cs.take i, [], [c], cs.drop i, by simp, ?_, by simp, by simp⟩
    rw [← Option.some.inj hds]
    rfl
  | delete i =>
    rw [run?, Option.ite_none_right_eq_some] at h
    obtain ⟨hi, hds⟩ := h
    refine ⟨cs.take i, [cs[i]], [], cs.drop (i + 1), by simp, ?_, by simp, by simp⟩
    rw [← Option.some.inj hds, List.eraseIdx_eq_take_drop_succ]
    simp
  | replace i c =>
    rw [run?, Option.ite_none_right_eq_some] at h
    obtain ⟨hi, hds⟩ := h
    refine ⟨cs.take i, [cs[i]], [c], cs.drop (i + 1), by simp, ?_, by simp, by simp⟩
    rw [← Option.some.inj hds, List.set_eq_take_append_cons_drop, if_pos hi]
    simp

end Edit

/-- What the edits of a script make of a text, one after the other. -/
def runScript (script : List Edit) (cs : List Char) : Option (List Char) :=
  script.foldlM Edit.run? cs

/-- The script turns one text into another. -/
def Turns (script : List Edit) (a b : String) : Prop :=
  runScript script a.toList = some b.toList

theorem runScript_cons (e : Edit) (script : List Edit) (cs : List Char) :
    runScript (e :: script) cs = (e.run? cs).bind (runScript script) := rfl

theorem runScript_append {first second : List Edit} {a b c : List Char}
    (hfirst : runScript first a = some b) (hsecond : runScript second b = some c) :
    runScript (first ++ second) a = some c := by
  rw [runScript, List.foldlM_append]
  show (runScript first a).bind _ = _
  rw [hfirst]
  exact hsecond

/-- A script works behind a character as it does without it. -/
theorem runScript_shifted (c : Char) (script : List Edit) (cs : List Char) :
    runScript (script.map Edit.shifted) (c :: cs) = (runScript script cs).map (c :: ·) := by
  induction script generalizing cs with
  | nil => rfl
  | cons e script ih =>
    rw [List.map_cons, runScript_cons, runScript_cons, Edit.run?_shifted]
    cases e.run? cs with
    | none => rfl
    | some ds => exact ih ds

/-! ## Alignments -/

/-- The two texts are paired from left to right at a cost: equal characters may be paired for free,
and everything else costs one. -/
inductive Aligned : Nat → List Char → List Char → Prop
  | nil : Aligned 0 [] []
  | keep {n : Nat} {a b : List Char} (c : Char) (h : Aligned n a b) : Aligned n (c :: a) (c :: b)
  | replace {n : Nat} {a b : List Char} (c d : Char) (h : Aligned n a b) :
    Aligned (n + 1) (c :: a) (d :: b)
  | delete {n : Nat} {a b : List Char} (c : Char) (h : Aligned n a b) : Aligned (n + 1) (c :: a) b
  | insert {n : Nat} {a b : List Char} (c : Char) (h : Aligned n a b) : Aligned (n + 1) a (c :: b)

namespace Aligned

variable {n m : Nat} {a b x y : List Char} {c : Char}

theorem refl (a : List Char) : Aligned 0 a a := by
  induction a with
  | nil => exact .nil
  | cons c a ih => exact .keep c ih

theorem symm (h : Aligned n a b) : Aligned n b a := by
  induction h with
  | nil => exact .nil
  | keep c _ ih => exact .keep c ih
  | replace c d _ ih => exact .replace d c ih
  | delete c _ ih => exact .insert c ih
  | insert c _ ih => exact .delete c ih

theorem append (h : Aligned n a b) (h' : Aligned m x y) : Aligned (n + m) (a ++ x) (b ++ y) := by
  induction h with
  | nil => simpa using h'
  | keep c _ ih => exact .keep c ih
  | replace c d _ ih =>
    rw [Nat.add_right_comm]
    exact .replace c d ih
  | delete c _ ih =>
    rw [Nat.add_right_comm]
    exact .delete c ih
  | insert c _ ih =>
    rw [Nat.add_right_comm]
    exact .insert c ih

theorem reverse (h : Aligned n a b) : Aligned n a.reverse b.reverse := by
  induction h with
  | nil => exact .nil
  | keep c _ ih =>
    rw [List.reverse_cons, List.reverse_cons]
    exact ih.append (refl [c])
  | replace c d _ ih =>
    rw [List.reverse_cons, List.reverse_cons]
    exact ih.append (.replace c d .nil)
  | delete c _ ih =>
    rw [List.reverse_cons]
    simpa using ih.append (.delete c .nil)
  | insert c _ ih =>
    rw [List.reverse_cons]
    simpa using ih.append (.insert c .nil)

theorem reverse_iff : Aligned n a.reverse b.reverse ↔ Aligned n a b := by
  constructor
  · intro h
    simpa using h.reverse
  · exact reverse

/-- What is paired with two parts, one behind the other, consists of two parts as well. -/
theorem split (h : Aligned n (x ++ y) b) :
    ∃ k l u v, n = k + l ∧ b = u ++ v ∧ Aligned k x u ∧ Aligned l y v := by
  induction x generalizing n b with
  | nil => exact ⟨0, n, [], b, by omega, rfl, .nil, h⟩
  | cons c x ih =>
    generalize hxy : c :: x ++ y = a at h
    -- any number of characters may be inserted before the first one has its turn
    induction h with
    | nil => cases hxy
    | keep d h =>
      obtain ⟨rfl, rfl⟩ := List.cons.inj hxy
      obtain ⟨k, l, u, v, rfl, rfl, hu, hv⟩ := ih h
      exact ⟨k, l, c :: u, v, rfl, rfl, .keep c hu, hv⟩
    | replace d e h =>
      obtain ⟨rfl, rfl⟩ := List.cons.inj hxy
      obtain ⟨k, l, u, v, rfl, rfl, hu, hv⟩ := ih h
      exact ⟨k + 1, l, e :: u, v, by omega, rfl, .replace c e hu, hv⟩
    | delete d h =>
      obtain ⟨rfl, rfl⟩ := List.cons.inj hxy
      obtain ⟨k, l, u, v, rfl, rfl, hu, hv⟩ := ih h
      exact ⟨k + 1, l, u, v, by omega, rfl, .delete c hu, hv⟩
    | insert d _ ih' =>
      obtain ⟨k, l, u, v, rfl, rfl, hu, hv⟩ := ih' hxy
      exact ⟨k + 1, l, d :: u, v, by omega, rfl, .insert d hu, hv⟩

/-- A text cannot be longer than the other by more than the cost. -/
theorem length_le (h : Aligned n a b) : b.length ≤ a.length + n := by
  induction h with
  | nil => simp
  | keep c _ ih =>
    simp only [List.length_cons]
    omega
  | replace c d _ ih =>
    simp only [List.length_cons]
    omega
  | delete c _ ih =>
    simp only [List.length_cons]
    omega
  | insert c _ ih =>
    simp only [List.length_cons]
    omega

/-- Two texts can be paired place by place. -/
theorem max_length (a b : List Char) : Aligned (max a.length b.length) a b := by
  induction a generalizing b with
  | nil =>
    induction b with
    | nil => exact .nil
    | cons d b ih =>
      have hinsert := Aligned.insert d ih
      simpa using hinsert
  | cons c a ih =>
    cases b with
    | nil =>
      have hdelete := Aligned.delete c (ih [])
      simpa using hdelete
    | cons d b =>
      have hreplace := Aligned.replace c d (ih b)
      simpa [Nat.add_max_add_right] using hreplace

/-- A change of at most one character to at most one costs at most one. -/
theorem exists_changed {u v : List Char} (h : Aligned n (x ++ (v ++ y)) b) (hu : u.length ≤ 1)
    (hv : v.length ≤ 1) : ∃ m ≤ n + 1, Aligned m (x ++ (u ++ y)) b := by
  obtain ⟨k, l, b₁, b', rfl, rfl, hx, h'⟩ := h.split
  obtain ⟨i, j, b₂, b₃, rfl, rfl, hmiddle, hy⟩ := h'.split
  -- only the part that is paired with the change is paired anew, place by place
  have hlength := hmiddle.length_le
  have hnew := max_length u b₂
  refine ⟨k + (max u.length b₂.length + j), by omega, ?_⟩
  exact hx.append (hnew.append hy)

theorem exists_of_cons_left (h : Aligned n (c :: a) b) : ∃ m ≤ n + 1, Aligned m a b :=
  exists_changed (x := []) (v := [c]) (u := []) h (by simp) (by simp)

theorem exists_of_cons_right (h : Aligned n a (c :: b)) : ∃ m ≤ n + 1, Aligned m a b := by
  obtain ⟨m, hm, haligned⟩ := exists_of_cons_left h.symm
  exact ⟨m, hm, haligned.symm⟩

/-- Two equal first characters may as well be paired: what follows them costs no more than any
alignment of the whole. -/
theorem exists_tail (h : Aligned n (c :: a) (c :: b)) : ∃ m ≤ n, Aligned m a b := by
  cases h with
  | keep _ h => exact ⟨n, Nat.le_refl n, h⟩
  | replace _ _ h => exact ⟨_, Nat.le_succ _, h⟩
  | delete _ h => exact exists_of_cons_right h
  | insert _ h => exact exists_of_cons_left h

/-- An alignment gives a script of as many edits as it costs. -/
theorem exists_script (h : Aligned n a b) :
    ∃ script : List Edit, runScript script a = some b ∧ script.length = n := by
  induction h with
  | nil => exact ⟨[], rfl, rfl⟩
  | @keep n a b c h ih =>
    obtain ⟨script, hrun, hlength⟩ := ih
    refine ⟨script.map Edit.shifted, ?_, by simpa using hlength⟩
    rw [runScript_shifted, hrun]
    rfl
  | @replace n a b c d h ih =>
    obtain ⟨script, hrun, hlength⟩ := ih
    refine ⟨.replace 0 d :: script.map Edit.shifted, ?_, by simpa using hlength⟩
    have hfirst : (Edit.replace 0 d).run? (c :: a) = some (d :: a) := by simp [Edit.run?]
    rw [runScript_cons, hfirst, Option.bind_some, runScript_shifted, hrun]
    rfl
  | @delete n a b c h ih =>
    obtain ⟨script, hrun, hlength⟩ := ih
    refine ⟨.delete 0 :: script, ?_, by simpa using hlength⟩
    have hfirst : (Edit.delete 0).run? (c :: a) = some a := by simp [Edit.run?]
    rw [runScript_cons, hfirst, Option.bind_some, hrun]
  | @insert n a b c h ih =>
    obtain ⟨script, hrun, hlength⟩ := ih
    have hlast : runScript [.insert 0 c] b = some (c :: b) := by simp [runScript, Edit.run?]
    exact ⟨script ++ [.insert 0 c], runScript_append hrun hlast, by simpa using hlength⟩

end Aligned

/-- A script cannot do better than an alignment. -/
theorem exists_aligned_of_script {script : List Edit} {a b : List Char}
    (h : runScript script a = some b) : ∃ n ≤ script.length, Aligned n a b := by
  induction script generalizing a with
  | nil =>
    cases h
    exact ⟨0, Nat.le_refl 0, .refl _⟩
  | cons e script ih =>
    rw [runScript_cons] at h
    obtain ⟨a', hfirst, hrest⟩ := Option.bind_eq_some_iff.mp h
    obtain ⟨n, hn, haligned⟩ := ih hrest
    obtain ⟨x, u, v, y, rfl, rfl, hu, hv⟩ := Edit.exists_of_run? hfirst
    obtain ⟨m, hm, hall⟩ := haligned.exists_changed hu hv
    refine ⟨m, ?_, hall⟩
    rw [List.length_cons]
    omega

/-! ## Least costs -/

/-- The least cost of an alignment. -/
def LeastCost (a b : List Char) (n : Nat) : Prop :=
  IsLeast {m | Aligned m a b} n

namespace LeastCost

variable {a b : List Char} {n : Nat} {c d : Char}

theorem symm (h : LeastCost a b n) : LeastCost b a n := by
  refine ⟨h.1.symm, ?_⟩
  intro m hm
  exact h.2 hm.symm

theorem of_reverse (h : LeastCost a.reverse b.reverse n) : LeastCost a b n := by
  refine ⟨Aligned.reverse_iff.mp h.1, ?_⟩
  intro m hm
  exact h.2 (Aligned.reverse_iff.mpr hm)

/-- From nothing to a text: every character is inserted. -/
theorem nil_left (b : List Char) : LeastCost [] b b.length := by
  constructor
  · have haligned := Aligned.max_length [] b
    simpa using haligned
  · intro m hm
    have hlength := Aligned.length_le hm
    simpa using hlength

theorem eq_length (h : LeastCost [] b n) : n = b.length :=
  h.unique (nil_left b)

/-- Where the characters agree, the entry diagonally above is the least cost. -/
theorem cons_same (h : LeastCost a b n) : LeastCost (c :: a) (c :: b) n := by
  refine ⟨.keep c h.1, ?_⟩
  intro m hm
  obtain ⟨k, hk, haligned⟩ := Aligned.exists_tail hm
  exact (h.2 haligned).trans hk

/-- Where they differ, the least cost is one more than the least of the three entries around. -/
theorem cons_ne {diagonal above left : Nat} (hne : c ≠ d) (hdiagonal : LeastCost a b diagonal)
    (habove : LeastCost (c :: a) b above) (hleft : LeastCost a (d :: b) left) :
    LeastCost (c :: a) (d :: b) (1 + min (min diagonal above) left) := by
  constructor
  · -- the entry that is the least one tells the first edit
    show Aligned _ _ _
    rw [Nat.add_comm]
    rcases Nat.le_total (min diagonal above) left with hle | hle
    · rw [Nat.min_eq_left hle]
      rcases Nat.le_total diagonal above with hle' | hle'
      · rw [Nat.min_eq_left hle']
        exact .replace c d hdiagonal.1
      · rw [Nat.min_eq_right hle']
        exact .insert d habove.1
    · rw [Nat.min_eq_right hle]
      exact .delete c hleft.1
  · intro m hm
    cases hm with
    | keep _ _ => exact absurd rfl hne
    | replace _ _ h =>
      have := hdiagonal.2 h
      omega
    | delete _ h =>
      have := hleft.2 h
      omega
    | insert _ h =>
      have := habove.2 h
      omega

end LeastCost

/-! ## Rows -/

/-- The entries of a row from one beginning of the shorter text on: the least costs of this beginning
and of the longer ones, against one beginning of the longer text. Beginnings stand backwards, since
they grow at the end. -/
inductive IsRow (p : List Char) : List Char → List Char → List Nat → Prop
  | last {q : List Char} {n : Nat} (h : LeastCost q p n) : IsRow p q [] [n]
  | more {q ds : List Char} {d : Char} {n : Nat} {row : List Nat} (h : LeastCost q p n)
    (hrow : IsRow p (d :: q) ds row) : IsRow p q (d :: ds) (n :: row)

namespace IsRow

variable {p q ds : List Char} {row : List Nat} {c : Char}

theorem exists_head (h : IsRow p q ds row) : ∃ n rest, row = n :: rest ∧ LeastCost q p n := by
  cases h with
  | last h => exact ⟨_, [], rfl, h⟩
  | more h _ => exact ⟨_, _, rfl, h⟩

/-- Against nothing, each beginning costs its length. -/
theorem range (q ds : List Char) : IsRow [] q ds (List.range' q.length (ds.length + 1)) := by
  induction ds generalizing q with
  | nil =>
    simp only [List.length_nil, Nat.zero_add, List.range'_one]
    exact .last (LeastCost.nil_left q).symm
  | cons d ds ih =>
    rw [List.length_cons, List.range'_succ]
    exact .more (LeastCost.nil_left q).symm (ih (d :: q))

/-- The entries to the right of one that is right are right. -/
theorem extendRow {left : Nat} (h : IsRow p q ds row) (hleft : LeastCost q (c :: p) left) :
    IsRow (c :: p) q ds (left :: extendRow c left ds row) := by
  induction h generalizing left with
  | last h => exact .last hleft
  | @more q ds d n row h hrow ih =>
    refine .more hleft ?_
    obtain ⟨above, rest, rfl, habove⟩ := hrow.exists_head
    -- one entry is computed from the three around it, and the rest of the row from this one
    have hentry : LeastCost (d :: q) (c :: p) (if d = c then n else 1 + min (min n above) left) := by
      split
      · next hsame =>
        subst hsame
        exact h.cons_same
      · next hne => exact LeastCost.cons_ne hne h habove hleft
    exact ih hentry

/-- The next row of a row that is right is right. -/
theorem nextRow (h : IsRow p [] ds row) : IsRow (c :: p) [] ds (nextRow ds row c) := by
  obtain ⟨n, rest, hrow, hn⟩ := h.exists_head
  have hfirst : LeastCost [] (c :: p) (row.headD 0 + 1) := by
    have hall := LeastCost.nil_left (c :: p)
    rw [hrow, List.headD_cons, hn.eq_length]
    exact hall
  exact h.extendRow hfirst

/-- So are the rows after any number of characters. -/
theorem foldl_nextRow (h : IsRow p [] ds row) (longer : List Char) :
    IsRow (longer.reverse ++ p) [] ds (longer.foldl (Text.nextRow ds) row) := by
  induction longer generalizing p row with
  | nil => exact h
  | cons c longer ih =>
    rw [List.reverse_cons, List.append_assoc]
    exact ih h.nextRow

/-- The last entry of a row is that of the whole shorter text. -/
theorem getLastD (h : IsRow p q ds row) (default : Nat) :
    LeastCost (ds.reverse ++ q) p (row.getLastD default) := by
  induction h generalizing default with
  | last h => exact h
  | @more q ds d n row h hrow ih =>
    rw [List.reverse_cons, List.append_assoc, List.getLastD_cons]
    exact ih n

end IsRow

theorem lastRow_leastCost (shorter longer : List Char) :
    LeastCost shorter longer ((lastRow shorter longer).getLastD 0) := by
  have hstart : IsRow [] [] shorter (List.range (shorter.length + 1)) := by
    rw [List.range_eq_range']
    exact IsRow.range [] shorter
  have hend := (hstart.foldl_nextRow longer).getLastD 0
  rw [List.append_nil, List.append_nil] at hend
  exact hend.of_reverse

/-- The cost does not depend on which text comes first, so the longer one may be put second. -/
theorem editDistanceChars_leastCost (a b : List Char) : LeastCost a b (editDistanceChars a b) := by
  rw [editDistanceChars]
  by_cases hlonger : a.length > b.length
  · rw [if_pos hlonger]
    exact (lastRow_leastCost b a).symm
  · rw [if_neg hlonger]
    exact lastRow_leastCost a b

/-- **The edit distance is the least number of edits.** Some script of this length turns the first
text into the second, and none that is shorter does. -/
theorem editDistance_isLeast (a b : String) :
    IsLeast {n | ∃ script : List Edit, Turns script a b ∧ script.length = n} (editDistance a b) := by
  have hleast := editDistanceChars_leastCost a.toList b.toList
  constructor
  · exact hleast.1.exists_script
  · rintro n ⟨script, hturns, rfl⟩
    obtain ⟨m, hm, haligned⟩ := exists_aligned_of_script hturns
    exact (hleast.2 haligned).trans hm

example : editDistance "kitten" "sitting" = 3 := by decide

end Remedy.Text
