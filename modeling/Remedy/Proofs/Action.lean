import Remedy.Action
import Mathlib.Data.List.Forall2

/-!
# Running actions

How `Action.exec` goes through the ways in which actions are put together. An action that is a
sequence runs its parts one after the other, each on the state that the one before it has left, and
stops at the first part that fails with the state as it is then.

Main results:

* `exec_bind`: a sequence runs its second part exactly when the first has a result.
* `exec_bind_eq_ok`: a sequence has a result exactly when both of its parts have one.
* `Keeps.bind`: what all parts of a sequence leave alone, the sequence leaves alone.
* `exec_mapM_fst`, `exec_mapM_forall`, `exec_mapM_rel`: an action for each item of a list gives what
  the actions give one by one, establishes what each of them establishes for its item, and relates
  the states as they do.
* `exec_mapM_eq_error`: it fails as the first of the actions that fails.
* `exec_mapM_of_invariant`, `exists_exec_mapM_of_invariant`: what is known of the results while an
  invariant holds is known of all results, if each action keeps the invariant.
-/

namespace Remedy

/-! ## Outcomes -/

namespace Outcome

variable {α β : Type}

theorem bind_eq_ok {o : Outcome α} {f : α → Outcome β} {y : β} :
    o >>= f = .ok y ↔ ∃ x, o = .ok x ∧ f x = .ok y := by
  cases o with
  | error e => simp [bind, Except.bind]
  | ok x => simp [bind, Except.bind]

theorem map_eq_ok {o : Outcome α} {f : α → β} {y : β} :
    o.map f = .ok y ↔ ∃ x, o = .ok x ∧ f x = y := by
  cases o with
  | error e => simp [Except.map]
  | ok x => simp [Except.map]

theorem map_eq_error {o : Outcome α} {f : α → β} {e : Failure} :
    o.map f = .error e ↔ o = .error e := by
  cases o with
  | error e' => simp [Except.map]
  | ok x => simp [Except.map]

/-- Reading a list item by item gives a list when every item can be read. -/
theorem mapM_eq_ok {f : α → Outcome β} {xs : List α} {ys : List β} :
    xs.mapM f = .ok ys ↔ List.Forall₂ (fun x y => f x = .ok y) xs ys := by
  induction xs generalizing ys with
  | nil =>
    rw [List.forall₂_nil_left_iff]
    exact ⟨fun h => by cases h; rfl, fun h => by rw [h]; rfl⟩
  | cons x xs ih =>
    rw [List.mapM_cons, bind_eq_ok, List.forall₂_cons_left_iff]
    constructor
    · rintro ⟨y, hy, hrest⟩
      obtain ⟨ys', hys', hcons⟩ := bind_eq_ok.mp hrest
      cases hcons
      exact ⟨y, ys', hy, ih.mp hys', rfl⟩
    · rintro ⟨y, ys', hy, hall, rfl⟩
      exact ⟨y, hy, bind_eq_ok.mpr ⟨ys', ih.mpr hall, rfl⟩⟩

theorem mem_of_mapM_eq_ok {f : α → Outcome β} {xs : List α} {ys : List β}
    (h : xs.mapM f = .ok ys) {y : β} : y ∈ ys ↔ ∃ x ∈ xs, f x = .ok y := by
  have hall := mapM_eq_ok.mp h
  clear h
  induction hall with
  | nil => simp
  | cons hxy _ ih =>
    simp only [List.mem_cons, ih, exists_eq_or_imp, hxy, Except.ok.injEq]
    exact or_congr_left eq_comm

theorem exists_of_mapM_eq_ok {f : α → Outcome β} {xs : List α} {ys : List β}
    (h : xs.mapM f = .ok ys) {x : α} (hx : x ∈ xs) : ∃ y ∈ ys, f x = .ok y := by
  obtain ⟨i, hi, rfl⟩ := List.mem_iff_getElem.mp hx
  have hall := mapM_eq_ok.mp h
  have hlen := hall.length_eq
  exact ⟨ys[i], List.getElem_mem _, hall.get hi (by omega)⟩

theorem mapM_congr {f g : α → Outcome β} {xs : List α} (h : ∀ x ∈ xs, f x = g x) :
    xs.mapM f = xs.mapM g := by
  induction xs with
  | nil => rfl
  | cons x xs ih =>
    rw [List.mapM_cons, List.mapM_cons, h x List.mem_cons_self,
      ih fun y hy => h y (List.mem_cons_of_mem _ hy)]

theorem exists_mapM_eq_ok {f : α → Outcome β} {xs : List α}
    (h : ∀ x ∈ xs, ∃ y, f x = .ok y) : ∃ ys, xs.mapM f = .ok ys := by
  induction xs with
  | nil => exact ⟨[], rfl⟩
  | cons x xs ih =>
    obtain ⟨y, hy⟩ := h x List.mem_cons_self
    obtain ⟨ys, hys⟩ := ih fun x' hx' => h x' (List.mem_cons_of_mem _ hx')
    exact ⟨y :: ys, mapM_eq_ok.mpr (.cons hy (mapM_eq_ok.mp hys))⟩

end Outcome

/-! ## Actions -/

namespace Action

variable {σ α β : Type}

attribute [simp] exec_pure exec_throw

theorem exec_eq_of_fst {a : Action σ α} {s : σ} {o : Outcome α} (h : (a.exec s).1 = o) :
    a.exec s = (o, (a.exec s).2) := by
  rw [← h]

theorem exec_bind (a : Action σ α) (f : α → Action σ β) (s : σ) :
    (a >>= f).exec s =
      match a.exec s with
      | (.ok x, s') => (f x).exec s'
      | (.error e, s') => (.error e, s') := by
  rcases h : a.exec s with ⟨o, s'⟩
  have hrun : ExceptT.run a s = (o, s') := h
  show StateT.bind (ExceptT.run a) (ExceptT.bindCont f) s = _
  rw [StateT.bind, hrun]
  cases o <;> rfl

theorem exec_bind_of_ok {a : Action σ α} {s s' : σ} {x : α} (h : a.exec s = (.ok x, s'))
    (f : α → Action σ β) : (a >>= f).exec s = (f x).exec s' := by
  rw [exec_bind, h]

theorem exec_bind_of_error {a : Action σ α} {s s' : σ} {e : Failure}
    (h : a.exec s = (.error e, s')) (f : α → Action σ β) :
    (a >>= f).exec s = (.error e, s') := by
  rw [exec_bind, h]

/-- A sequence has a result when both of its parts have one. -/
theorem exec_bind_eq_ok {a : Action σ α} {f : α → Action σ β} {s s'' : σ} {y : β} :
    (a >>= f).exec s = (.ok y, s'') ↔
      ∃ x s', a.exec s = (.ok x, s') ∧ (f x).exec s' = (.ok y, s'') := by
  rw [exec_bind]
  rcases h : a.exec s with ⟨o, s'⟩
  cases o with
  | error e => simp
  | ok x =>
    constructor
    · intro hf
      exact ⟨x, s', rfl, hf⟩
    · rintro ⟨_, _, heq, hf⟩
      cases heq
      exact hf

theorem exec_map (g : α → β) (a : Action σ α) (s : σ) :
    (g <$> a).exec s = ((a.exec s).1.map g, (a.exec s).2) := by
  rw [← bind_pure_comp, exec_bind]
  rcases a.exec s with ⟨o, s'⟩
  cases o <;> rfl

@[simp]
theorem exec_ofOutcome (o : Outcome α) (s : σ) : (ofOutcome o : Action σ α).exec s = (o, s) := rfl

@[simp]
theorem exec_get (s : σ) : (get : Action σ σ).exec s = (.ok s, s) := rfl

@[simp]
theorem exec_modify (g : σ → σ) (s : σ) :
    (modify g : Action σ PUnit).exec s = (.ok ⟨⟩, g s) := rfl

/-! ## Actions that leave a part of the state alone -/

/-- The action leaves what is seen of the state, whatever comes of it. -/
def Keeps {τ : Type} (view : σ → τ) (a : Action σ α) : Prop :=
  ∀ s, view (a.exec s).2 = view s

section Keeps

variable {τ : Type} {view : σ → τ}

theorem Keeps.ofOutcome (o : Outcome α) : Keeps view (ofOutcome o : Action σ α) :=
  fun _ => rfl

theorem Keeps.bind {a : Action σ α} {f : α → Action σ β} (ha : Keeps view a)
    (hf : ∀ x, Keeps view (f x)) : Keeps view (a >>= f) := by
  intro s
  have hfirst := ha s
  rw [exec_bind]
  rcases hrun : a.exec s with ⟨o, s'⟩
  rw [hrun] at hfirst
  cases o with
  | error e => exact hfirst
  | ok x => exact (hf x s').trans hfirst

/-- What only reads afterwards leaves the state as it is. -/
theorem exec_bind_snd {a : Action σ α} {f : α → Action σ β} (hf : ∀ x, Keeps id (f x)) (s : σ) :
    ((a >>= f).exec s).2 = (a.exec s).2 := by
  rw [exec_bind]
  rcases a.exec s with ⟨o, t⟩
  cases o with
  | error e => rfl
  | ok x => exact hf x t

theorem Keeps.foldlM {f : β → α → Action σ β} (hf : ∀ y x, Keeps view (f y x)) (xs : List α)
    (y : β) : Keeps view (xs.foldlM f y) := by
  induction xs generalizing y with
  | nil => exact fun _ => rfl
  | cons x xs ih =>
    rw [List.foldlM_cons]
    exact (hf y x).bind ih

/-- What is done last is done in any case. -/
theorem andAlways_snd (a : Action σ α) (last : Action σ Unit) (s : σ) :
    ((a.andAlways last).exec s).2 = (last.exec (a.exec s).2).2 := by
  have hattempt : a.attempt.exec s = (.ok (a.exec s).1, (a.exec s).2) := rfl
  rw [Action.andAlways, exec_bind_of_ok hattempt, exec_bind]
  rcases last.exec (a.exec s).2 with ⟨o, t⟩
  cases o with
  | error e => rfl
  | ok _ => rfl

/-- What is done last does not change the result, if it succeeds. -/
theorem andAlways_exec {a : Action σ α} {last : Action σ Unit} {s t : σ}
    (h : last.exec (a.exec s).2 = (.ok (), t)) :
    (a.andAlways last).exec s = ((a.exec s).1, t) := by
  have hattempt : a.attempt.exec s = (.ok (a.exec s).1, (a.exec s).2) := rfl
  rw [Action.andAlways, exec_bind_of_ok hattempt, exec_bind_of_ok h, exec_ofOutcome]

theorem Keeps.andAlways {a : Action σ α} {last : Action σ Unit} (ha : Keeps view a)
    (hlast : Keeps view last) : Keeps view (a.andAlways last) := by
  intro s
  rw [andAlways_snd, hlast, ha]

end Keeps

/-! ## Actions for the items of a list -/

theorem exec_mapM_cons (f : α → Action σ β) (x : α) (xs : List α) (s : σ) :
    (List.mapM f (x :: xs)).exec s =
      match (f x).exec s with
      | (.ok y, s') => (((xs.mapM f).exec s').1.map (y :: ·), ((xs.mapM f).exec s').2)
      | (.error e, s') => (.error e, s') := by
  rw [List.mapM_cons, exec_bind]
  rcases (f x).exec s with ⟨o, s'⟩
  cases o with
  | error e => rfl
  | ok y =>
    show ((xs.mapM f) >>= fun ys => pure (y :: ys)).exec s' = _
    rw [bind_pure_comp, exec_map]

/-- Whatever relates the states before and after each action relates those before and after all. -/
theorem exec_mapM_rel {f : α → Action σ β} {R : σ → σ → Prop} (hrefl : ∀ s, R s s)
    (htrans : ∀ {a b c}, R a b → R b c → R a c) (h : ∀ x s, R s ((f x).exec s).2) (xs : List α)
    (s : σ) : R s ((xs.mapM f).exec s).2 := by
  induction xs generalizing s with
  | nil => exact hrefl s
  | cons x xs ih =>
    have hx := h x s
    rw [exec_mapM_cons]
    rcases hfx : (f x).exec s with ⟨o, s'⟩
    rw [hfx] at hx
    cases o with
    | error e => exact hx
    | ok y => exact htrans hx (ih s')

theorem Keeps.mapM {τ : Type} {view : σ → τ} {f : α → Action σ β} (hf : ∀ x, Keeps view (f x))
    (xs : List α) : Keeps view (xs.mapM f) :=
  exec_mapM_rel (R := fun s t => view t = view s) (fun _ => rfl) (fun hab hbc => hbc.trans hab) hf xs

/-- If what each action gives depends only on what all of them keep, so does what all of them give. -/
theorem Keeps.mapM_fst {τ : Type} {view : σ → τ} {f : α → Action σ β} {g : τ → α → Outcome β}
    (hf : ∀ x, Keeps view (f x)) (h : ∀ x s, ((f x).exec s).1 = g (view s) x) (xs : List α) (s : σ) :
    ((xs.mapM f).exec s).1 = xs.mapM (g (view s)) := by
  induction xs generalizing s with
  | nil => rfl
  | cons x xs ih =>
    have hx := h x s
    have hview := hf x s
    rw [exec_mapM_cons, List.mapM_cons, ← hx]
    rcases hrun : (f x).exec s with ⟨o, s'⟩
    rw [hrun] at hview
    cases o with
    | error e => rfl
    | ok y =>
      show ((xs.mapM f).exec s').1.map _ = _
      rw [ih s', hview]
      cases xs.mapM (g (view s)) <;> rfl

/-- If what each action gives does not depend on the state, neither does what all of them give. -/
theorem exec_mapM_fst {f : α → Action σ β} {g : α → Outcome β}
    (h : ∀ x s, ((f x).exec s).1 = g x) (xs : List α) (s : σ) :
    ((xs.mapM f).exec s).1 = xs.mapM g :=
  have hnothing : ∀ x, Keeps (fun _ => ()) (f x) := fun _ _ => rfl
  Keeps.mapM_fst (g := fun _ => g) hnothing h xs s

/-- The results of the actions are their results one by one, each in some state. -/
theorem exec_mapM_forall₂ {f : α → Action σ β} {xs : List α} {s s' : σ} {ys : List β}
    (h : (xs.mapM f).exec s = (.ok ys, s')) :
    List.Forall₂ (fun x y => ∃ t t', (f x).exec t = (.ok y, t')) xs ys := by
  induction xs generalizing s ys with
  | nil =>
    cases h
    exact .nil
  | cons x xs ih =>
    rw [exec_mapM_cons] at h
    rcases hfx : (f x).exec s with ⟨o, s₁⟩
    cases o with
    | error e => simp [hfx] at h
    | ok z =>
      rcases hrest : (xs.mapM f).exec s₁ with ⟨o, s₂⟩
      simp only [hfx, hrest, Prod.mk.injEq, Outcome.map_eq_ok] at h
      obtain ⟨⟨zs, rfl, rfl⟩, rfl⟩ := h
      exact .cons ⟨s, s₁, hfx⟩ (ih hrest)

/-- The actions fail with the failure of one of them, on the state that those before it have left. -/
theorem exec_mapM_eq_error {f : α → Action σ β} {xs : List α} {s : σ} {e : Failure} :
    ((xs.mapM f).exec s).1 = .error e ↔
      ∃ before x after ys s', xs = before ++ x :: after ∧ (before.mapM f).exec s = (.ok ys, s') ∧
        ((f x).exec s').1 = .error e := by
  constructor
  · intro h
    induction xs generalizing s with
    | nil => cases h
    | cons x xs ih =>
      rw [exec_mapM_cons] at h
      rcases hfx : (f x).exec s with ⟨o, s'⟩
      rw [hfx] at h
      cases o with
      | error e' =>
        cases h
        exact ⟨[], x, xs, [], s, rfl, rfl, by rw [hfx]⟩
      | ok y =>
        have hrest : ((xs.mapM f).exec s').1 = .error e := by
          cases hxs : ((xs.mapM f).exec s').1 with
          | ok ys => simp [hxs, Except.map] at h
          | error e' => simpa [hxs, Except.map] using h
        obtain ⟨before, z, after, ys, t, rfl, hbefore, hz⟩ := ih hrest
        refine ⟨x :: before, z, after, y :: ys, t, rfl, ?_, hz⟩
        rw [exec_mapM_cons, hfx]
        dsimp only
        rw [hbefore]
        rfl
  · rintro ⟨before, x, after, ys, s', rfl, hbefore, hx⟩
    have hfx := exec_eq_of_fst hx
    rw [List.mapM_append, exec_bind_of_ok hbefore, exec_bind, exec_mapM_cons, hfx]

/-- Each result of the actions is the result of one of them. -/
theorem exec_mapM_mem {f : α → Action σ β} {xs : List α} {s s' : σ} {ys : List β}
    (h : (xs.mapM f).exec s = (.ok ys, s')) {y : β} (hy : y ∈ ys) :
    ∃ x ∈ xs, ∃ t t', (f x).exec t = (.ok y, t') := by
  have hall := exec_mapM_forall₂ h
  clear h
  induction hall with
  | nil => cases hy
  | cons hfirst _ ih =>
    rcases List.mem_cons.mp hy with rfl | hy
    · exact ⟨_, List.mem_cons_self, hfirst⟩
    · obtain ⟨x, hx, hstep⟩ := ih hy
      exact ⟨x, List.mem_cons_of_mem _ hx, hstep⟩

/-- When all actions have a result, what each establishes for its item holds in the end, if no other
action destroys it. -/
theorem exec_mapM_forall {f : α → Action σ β} {P : α → σ → Prop}
    (hstep : ∀ x s y s', (f x).exec s = (.ok y, s') → P x s')
    (hkeep : ∀ x x' s, P x s → P x ((f x').exec s).2) {xs : List α} {s s' : σ} {ys : List β}
    (h : (xs.mapM f).exec s = (.ok ys, s')) : ∀ x ∈ xs, P x s' := by
  induction xs generalizing s ys with
  | nil => simp
  | cons x xs ih =>
    rw [exec_mapM_cons] at h
    rcases hfx : (f x).exec s with ⟨o, s₁⟩
    cases o with
    | error e => simp [hfx] at h
    | ok y =>
      rcases hrest : (xs.mapM f).exec s₁ with ⟨o, s₂⟩
      simp only [hfx, hrest, Prod.mk.injEq, Outcome.map_eq_ok] at h
      obtain ⟨⟨ys', rfl, -⟩, rfl⟩ := h
      intro z hz
      rcases List.mem_cons.mp hz with rfl | hz
      · -- the later actions keep what the first has established
        have hfirst := hstep z s y s₁ hfx
        clear ih hfx
        have hlater : ∀ (zs : List α) (t : σ), P z t → P z ((zs.mapM f).exec t).2 := by
          intro zs t ht
          exact exec_mapM_rel (R := fun a b => P z a → P z b) (fun _ ha => ha)
            (fun hab hbc ha => hbc (hab ha)) (fun x' t' => hkeep z x' t') zs t ht
        have := hlater xs s₁ hfirst
        rwa [hrest] at this
      · exact ih hrest z hz

section Invariant

variable {f : α → Action σ β} {I : σ → Prop} {R : α → β → Prop} {xs : List α}
  {ys : List β} {s : σ}

/-- What holds of each result as long as an invariant does holds of all results, if each action keeps
the invariant. -/
theorem exec_mapM_of_invariant
    (hstep : ∀ x ∈ xs, ∀ s y s', I s → (f x).exec s = (.ok y, s') → R x y ∧ I s') (hs : I s)
    {s' : σ} (h : (xs.mapM f).exec s = (.ok ys, s')) : List.Forall₂ R xs ys ∧ I s' := by
  induction xs generalizing s ys with
  | nil =>
    cases h
    exact ⟨.nil, hs⟩
  | cons x xs ih =>
    rw [List.mapM_cons] at h
    obtain ⟨y, s₁, hx, hrest⟩ := exec_bind_eq_ok.mp h
    obtain ⟨zs, s₂, hxs, hlast⟩ := exec_bind_eq_ok.mp hrest
    cases hlast
    obtain ⟨hfirst, hs₁⟩ := hstep x List.mem_cons_self s y s₁ hs hx
    obtain ⟨hall, hs₂⟩ := ih (fun z hz => hstep z (List.mem_cons_of_mem _ hz)) hs₁ hxs
    exact ⟨.cons hfirst hall, hs₂⟩

/-- Actions that have a result as long as an invariant holds all have one, if each of them keeps the
invariant. -/
theorem exists_exec_mapM_of_invariant
    (hstep : ∀ x ∈ xs, ∀ s y, I s → R x y → ∃ s', (f x).exec s = (.ok y, s') ∧ I s') (hs : I s)
    (h : List.Forall₂ R xs ys) : ∃ s', (xs.mapM f).exec s = (.ok ys, s') ∧ I s' := by
  induction h generalizing s with
  | nil => exact ⟨s, rfl, hs⟩
  | @cons x y xs ys hxy _ ih =>
    obtain ⟨s₁, hx, hs₁⟩ := hstep x List.mem_cons_self s y hs hxy
    obtain ⟨s₂, hxs, hs₂⟩ := ih (fun z hz => hstep z (List.mem_cons_of_mem _ hz)) hs₁
    refine ⟨s₂, ?_, hs₂⟩
    rw [List.mapM_cons, exec_bind_of_ok hx, exec_bind_of_ok hxs]
    rfl

end Invariant

end Action
end Remedy
