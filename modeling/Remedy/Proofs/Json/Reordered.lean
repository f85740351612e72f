import Remedy.Json.Basic
import Mathlib.Data.List.Forall2
import Mathlib.Data.List.Perm.Basic

/-!
# Values up to order

A value can be put into another order in two places: the entries of an object carry their keys and may
stand anywhere, and the items of a list may or may not be exchanged. `Reordered` is the relation between
a value and what is left of it when this is done at any depth; what may happen to the items of a list is
a parameter, so that `Reordered Eq` moves nothing but entries and `Reordered List.Perm` moves items too.

Main results:

* `reordered_arr_iff`, `reordered_obj_iff`: what a list and an object can be put into.
-/

namespace Remedy.Json

/-- The second value is the first in another order. First what stands inside is reordered, each part
in its place, and then the parts themselves are moved. -/
inductive Reordered (items : List Json → List Json → Prop) : Json → Json → Prop
  | same (v : Json) : Reordered items v v
  | arr {xs ys zs : List Json} (inside : List.Forall₂ (Reordered items) xs ys)
      (moved : items ys zs) : Reordered items (.arr xs) (.arr zs)
  | obj {xs ys zs : Fields} (keys : xs.map Prod.fst = ys.map Prod.fst)
      (inside : List.Forall₂ (Reordered items) (xs.map Prod.snd) (ys.map Prod.snd))
      (moved : ys.Perm zs) : Reordered items (.obj xs) (.obj zs)

/-- An entry with the same key and a reordered value. -/
def ReorderedEntry (items : List Json → List Json → Prop) (e f : String × Json) : Prop :=
  e.1 = f.1 ∧ Reordered items e.2 f.2

variable {items : List Json → List Json → Prop}

theorem forall₂_reorderedEntry {xs ys : Fields} :
    List.Forall₂ (ReorderedEntry items) xs ys ↔ xs.map Prod.fst = ys.map Prod.fst ∧
      List.Forall₂ (Reordered items) (xs.map Prod.snd) (ys.map Prod.snd) := by
  induction xs generalizing ys with
  | nil => cases ys <;> simp
  | cons e xs ih =>
    cases ys with
    | nil => simp
    | cons f ys =>
      simp only [List.forall₂_cons, ih, ReorderedEntry, List.map_cons, List.cons.injEq]
      tauto

/-- What stands in the second of two lists that are related place by place has a counterpart in the
first. -/
theorem exists_of_forall₂_right {α β : Type} {R : α → β → Prop} {xs : List α} {ys : List β}
    (h : List.Forall₂ R xs ys) {y : β} (hy : y ∈ ys) : ∃ x ∈ xs, R x y := by
  obtain ⟨hlen, hget⟩ := List.forall₂_iff_get.mp h
  obtain ⟨j, hj, rfl⟩ := List.mem_iff_getElem.mp hy
  exact ⟨xs[j], List.getElem_mem _, hget j (by omega) hj⟩

theorem map_eq_map_iff_forall₂ {α β γ : Type} {f : α → γ} {g : β → γ} {xs : List α} {ys : List β} :
    xs.map f = ys.map g ↔ List.Forall₂ (fun x y => f x = g y) xs ys := by
  rw [← List.forall₂_eq_eq_eq, List.forall₂_map_left_iff, List.forall₂_map_right_iff]

/-- What a list can be put into. -/
theorem reordered_arr_iff (hitems : ∀ xs, items xs xs) {xs : List Json} {w : Json} :
    Reordered items (.arr xs) w ↔
      ∃ ys zs, List.Forall₂ (Reordered items) xs ys ∧ items ys zs ∧ w = .arr zs := by
  constructor
  · intro h
    cases h with
    | same => exact ⟨xs, xs, List.forall₂_same.mpr fun x _ => .same x, hitems xs, rfl⟩
    | arr inside moved => exact ⟨_, _, inside, moved, rfl⟩
  · rintro ⟨ys, zs, inside, moved, rfl⟩
    exact .arr inside moved

/-- What an object can be put into. -/
theorem reordered_obj_iff {xs : Fields} {w : Json} :
    Reordered items (.obj xs) w ↔
      ∃ ys zs : Fields, List.Forall₂ (ReorderedEntry items) xs ys ∧ ys.Perm zs ∧ w = .obj zs := by
  constructor
  · intro h
    cases h with
    | same => exact ⟨xs, xs, List.forall₂_same.mpr fun e _ => ⟨rfl, .same e.2⟩, .refl xs, rfl⟩
    | obj keys inside moved => exact ⟨_, _, forall₂_reorderedEntry.mpr ⟨keys, inside⟩, moved, rfl⟩
  · rintro ⟨ys, zs, inside, moved, rfl⟩
    obtain ⟨keys, inside⟩ := forall₂_reorderedEntry.mp inside
    exact .obj keys inside moved

end Remedy.Json
