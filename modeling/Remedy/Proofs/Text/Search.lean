import Remedy.Text.Blank
import Remedy.Text.Search
import Mathlib.Data.List.DropRight
import Mathlib.Data.List.Infix

/-!
# Searching past a separator

A part that has no separator in it lies on one side of each separator of a text: if it does not occur
before the separator, its first occurrence is the first one behind it. Blanks at the ends of a text
do not count when it is trimmed.

Main results:

* `prefix_of_prefix_append`: a part that has no separator ends before the first separator.
* `cut?_first`: a cut is made where the part occurs first.
* `contains_iff`: a text has a part in it exactly if the part occurs somewhere.
* `cut?_past`: cutting goes on behind a separator if the part does not occur before it.
* `trimmed_blank_append`, `trimmed_append_blank`: blanks around a text are trimmed off.
-/

namespace Remedy.Text

/-! ## Searching -/

theorem front?_eq_some_iff {part cs rest : List Char} :
    front? part cs = some rest ↔ cs = part ++ rest := by
  induction part generalizing cs with
  | nil => simp [front?]
  | cons p part ih =>
    cases cs with
    | nil => simp [front?]
    | cons c cs =>
      by_cases hpc : p = c
      · simp [front?, hpc, ih]
      · have hcp : c ≠ p := fun h => hpc h.symm
        simp [front?, hpc, hcp]

theorem front?_eq_none_iff {part cs : List Char} : front? part cs = none ↔ ¬ part <+: cs := by
  constructor
  · rintro hnone ⟨rest, hrest⟩
    have hsome : front? part cs = some rest := front?_eq_some_iff.mpr hrest.symm
    rw [hnone] at hsome
    cases hsome
  · intro hno
    cases hfront : front? part cs with
    | none => rfl
    | some rest => exact absurd ⟨rest, (front?_eq_some_iff.mp hfront).symm⟩ hno

/-- A text that begins with the part is cut at once. -/
theorem cut?_append (part rest : List Char) : cut? part (part ++ rest) = some ([], rest) := by
  have hfront : front? part (part ++ rest) = some rest := front?_eq_some_iff.mpr rfl
  cases hcs : part ++ rest with
  | nil =>
    obtain ⟨rfl, rfl⟩ := List.append_eq_nil_iff.mp hcs
    rfl
  | cons c cs =>
    rw [hcs] at hfront
    rw [cut?, hfront]

/-- A part is found exactly if it occurs somewhere. -/
theorem cut?_isSome_iff {part cs : List Char} : (cut? part cs).isSome = true ↔ part <:+: cs := by
  induction cs with
  | nil => cases part <;> simp [cut?]
  | cons c cs ih =>
    rw [cut?, List.infix_cons_iff]
    cases hfront : front? part (c :: cs) with
    | some rest =>
      refine iff_of_true rfl (Or.inl ⟨rest, ?_⟩)
      exact (front?_eq_some_iff.mp hfront).symm
    | none => simpa [front?_eq_none_iff.mp hfront] using ih

/-- A cut is made where the part occurs first. -/
theorem cut?_first {part cs before after : List Char} (h : cut? part cs = some (before, after)) :
    cs = before ++ part ++ after ∧ ∀ x, x ++ part <+: cs → before.length ≤ x.length := by
  induction cs generalizing before with
  | nil =>
    rw [cut?] at h
    split at h
    · next hempty =>
      cases h
      exact ⟨by rw [List.isEmpty_iff.mp hempty]; rfl, fun x _ => Nat.zero_le _⟩
    · cases h
  | cons c cs ih =>
    rw [cut?] at h
    cases hfront : front? part (c :: cs) with
    | some rest =>
      rw [hfront] at h
      cases h
      exact ⟨front?_eq_some_iff.mp hfront, fun x _ => Nat.zero_le _⟩
    | none =>
      rw [hfront] at h
      obtain ⟨⟨before', after'⟩, hcut, heq⟩ := Option.map_eq_some_iff.mp h
      cases heq
      obtain ⟨hcs, hfirst⟩ := ih hcut
      refine ⟨by rw [hcs]; rfl, fun x hx => ?_⟩
      cases x with
      | nil => exact absurd hx (front?_eq_none_iff.mp hfront)
      | cons d x => exact Nat.succ_le_succ (hfirst x (List.cons_prefix_cons.mp hx).2)

theorem contains_iff {s part : String} : contains s part = true ↔ part.toList <:+: s.toList :=
  cut?_isSome_iff

section Separator

variable {part : List Char} {sep : Char}

theorem prefix_of_prefix_append {x y : List Char} (hsep : sep ∉ part)
    (h : part <+: x ++ sep :: y) : part <+: x := by
  rcases List.prefix_or_prefix_of_prefix h (List.prefix_append x (sep :: y)) with hx | ⟨t, rfl⟩
  · exact hx
  · -- the rest of the part would begin with the separator
    have ht : t <+: sep :: y := (List.prefix_append_right_inj x).mp h
    cases t with
    | nil => simp
    | cons d t =>
      obtain ⟨rfl, -⟩ := List.cons_prefix_cons.mp ht
      exact absurd (by simp) hsep

/-- If the part does not occur before the separator, it is looked for behind it. -/
theorem cut?_past {x : List Char} (hpart : part ≠ []) (hsep : sep ∉ part) (hx : ¬ part <:+: x)
    (y : List Char) :
    cut? part (x ++ sep :: y) =
      (cut? part y).map fun found => (x ++ sep :: found.1, found.2) := by
  induction x with
  | nil =>
    have hnone : front? part (sep :: y) = none := by
      rw [front?_eq_none_iff]
      intro hfirst
      have hnil := prefix_of_prefix_append (x := []) hsep hfirst
      exact hpart (List.prefix_nil.mp hnil)
    rw [List.nil_append, cut?, hnone]
    rfl
  | cons c x ih =>
    have hnone : front? part (c :: (x ++ sep :: y)) = none := by
      rw [front?_eq_none_iff]
      intro hfirst
      exact hx (prefix_of_prefix_append (x := c :: x) hsep hfirst).isInfix
    have hrest : ¬ part <:+: x := fun h => hx (h.trans (List.suffix_cons c x).isInfix)
    rw [List.cons_append, cut?, hnone, ih hrest]
    cases cut? part y with
    | none => rfl
    | some found => rfl

end Separator

/-! ## Trimming -/

theorem trimmed_blank_append {blanks : List Char} (h : ∀ c ∈ blanks, isBlank c = true)
    (cs : List Char) : trimmed (blanks ++ cs) = trimmed cs := by
  rw [trimmed, trimmed, trimFront, trimFront, List.dropWhile_append_of_pos h]

theorem trimBack_append_blank {blanks : List Char} (h : ∀ c ∈ blanks, isBlank c = true)
    (cs : List Char) : trimBack (cs ++ blanks) = trimBack cs := by
  have hreverse : ∀ c ∈ blanks.reverse, isBlank c = true := by
    intro c hc
    exact h c (List.mem_reverse.mp hc)
  rw [trimBack, trimBack, List.reverse_append, List.dropWhile_append_of_pos hreverse]

theorem trimmed_append_blank {blanks : List Char} (h : ∀ c ∈ blanks, isBlank c = true)
    (cs : List Char) : trimmed (cs ++ blanks) = trimmed cs := by
  rw [trimmed, trimmed, trimFront, trimFront, List.dropWhile_append]
  split
  · -- the text is blank throughout, and so is what follows it
    next hempty =>
    have hnone : blanks.dropWhile isBlank = [] := List.dropWhile_eq_nil_iff.mpr h
    rw [hnone, List.isEmpty_iff.mp hempty]
  · exact trimBack_append_blank h _

theorem trimmed_trimFront (cs : List Char) : trimmed (trimFront cs) = trimmed cs := by
  rw [trimmed, trimFront, trimFront, List.dropWhile_idempotent, trimmed, trimFront]

/-- A text that has no blank at either end is trimmed already. -/
theorem trimmed_eq_self {first last : Char} (cs : List Char) (hfirst : isBlank first = false)
    (hlast : isBlank last = false) : trimmed (first :: (cs ++ [last])) = first :: (cs ++ [last]) := by
  rw [trimmed, trimFront, List.dropWhile_cons_of_neg (by simp [hfirst]), trimBack,
    ← List.cons_append, List.reverse_append, List.reverse_singleton, List.singleton_append,
    List.dropWhile_cons_of_neg (by simp [hlast]), List.reverse_cons, List.reverse_reverse]

end Remedy.Text
