import Remedy.Proofs.Store.Lookup

/-!
# Sequences of calls

A store is changed by three calls: `load_report` loads a report, `find_solutions` looks solutions up
and completes them, and `delete_store` takes all rows away. A load may be cut short at any point.
`Step` says what each call can leave of a store, and `Run` puts calls together, beginning with an
empty store. What holds in every store that calls lead to is shown call by call.

Main results:

* `Run.keeps`: what holds of an empty store and is kept by each call holds after every run.
* `Reachable.consistent`: the tables fit together after every run whose reports have proper variables.
* `Persisted.filled`: a store that checks its rows never holds one that lacks a column.
-/

namespace Remedy.Store

open Remedy.Action

/-- A call of a store. -/
inductive Call where
  | load (c : LoadCall)
  /-- A lookup, with the store and the model that it finds. -/
  | find (kind : ProducerKind) (style : Producer.SummaryStyle) (q : Query) (s : Session)
  | delete

/-- What a call can leave of a store; a load can be cut short at any point. -/
inductive Step : Store → Call → Store → Prop
  | load {s t : Store} (c : LoadCall) (h : Committed c.setup c.app c.report s t) :
    Step s (.load c) t
  | find (s : Session) (kind : ProducerKind) (style : Producer.SummaryStyle) (q : Query) :
    Step s.store (.find kind style q s) ((find kind style q).exec s).2.store
  | delete (s : Store) : Step s .delete s.emptied

/-- The stores that calls lead to from an empty one, whether or not it checks its rows. -/
inductive Run : List Call → Store → Prop
  | empty (checked : Bool) : Run [] { checked }
  | step {calls : List Call} {s t : Store} {call : Call} (hs : Run calls s) (h : Step s call t) :
    Run (calls ++ [call]) t

/-- A load that is not cut short is a step. -/
theorem LoadCall.step (c : LoadCall) (s : Store) : Step s (.load c) (c.run.exec s).2 :=
  .load c (load_committed c.setup c.app c.report s)

/-- What holds of an empty store and is kept by each call of a run holds after it. -/
theorem Run.keeps {P : Store → Prop} {calls : List Call} {s : Store} (h : Run calls s)
    (hempty : ∀ checked, P { checked })
    (hstep : ∀ {u call t}, call ∈ calls → P u → Step u call t → P t) : P s := by
  induction h with
  | empty checked => exact hempty checked
  | step _ hstep' ih =>
    refine hstep (by simp) (ih fun hin hu ht => ?_) hstep'
    exact hstep (List.mem_append_left _ hin) hu ht

/-! ## The stores that calls lead to -/

/-- Calls lead to the store. -/
def Persisted (s : Store) : Prop :=
  ∃ calls, Run calls s

namespace Persisted

theorem empty : Persisted {} :=
  ⟨[], .empty true⟩

theorem step {s t : Store} {call : Call} (hs : Persisted s) (h : Step s call t) : Persisted t :=
  let ⟨calls, hrun⟩ := hs
  ⟨calls ++ [call], hrun.step h⟩

theorem run {s : Store} (hs : Persisted s) (c : LoadCall) : Persisted (c.run.exec s).2 :=
  hs.step (c.step s)

end Persisted

/-- Calls lead to the store that load only reports with proper variables. -/
def Reachable (s : Store) : Prop :=
  ∃ calls, Run calls s ∧ ∀ c, Call.load c ∈ calls → c.report.ProperVars

namespace Reachable

theorem empty : Reachable {} :=
  ⟨[], .empty true, by simp⟩

theorem run {s : Store} (hs : Reachable s) {c : LoadCall} (h : c.report.ProperVars) :
    Reachable (c.run.exec s).2 := by
  obtain ⟨calls, hrun, hproper⟩ := hs
  refine ⟨calls ++ [.load c], hrun.step (c.step s), fun d hd => ?_⟩
  rcases List.mem_append.mp hd with hd | hd
  · exact hproper d hd
  · cases List.mem_singleton.mp hd
    exact h

/-- Every store that calls lead to is consistent. -/
theorem consistent {s : Store} (h : Reachable s) : Consistent s := by
  obtain ⟨calls, hrun, hproper⟩ := h
  refine hrun.keeps Consistent.empty fun hin hu hstep => ?_
  cases hstep with
  | load c hcommit => exact hu.committed hcommit (hproper c hin)
  | find s kind style q => exact hu.onlySolutions (find_onlySolutions kind style q s)
  | delete => exact Consistent.empty _

end Reachable

/-! ## Rows of a checked store -/

/-- If rows are checked, none lacks a column: applications are complete and rule sets have names. -/
def Filled (s : Store) : Prop :=
  s.checked → (∀ a ∈ s.applications, a.complete) ∧ ∀ r ∈ s.rulesets, r.name.isSome

namespace Filled

variable {setup : LoadSetup} {app : Application} {report : Report} {s t : Store}

theorem empty (checked : Bool) : Filled { checked } :=
  fun _ => ⟨by simp, by simp⟩

/-- Only the tables of applications and rule sets matter. -/
theorem of_eq (h : Filled s) (happlications : t.applications = s.applications)
    (hrulesets : t.rulesets = s.rulesets) (hchecked : t.checked = s.checked) : Filled t := by
  rw [Filled, happlications, hrulesets, hchecked]
  exact h

theorem complete_of_admits (h : s.admits app) (hchecked : s.checked) : app.complete := by
  simpa [admits, hchecked] using h

theorem withApplication (h : Filled s) (htaken : s.canEnter app) :
    Filled (s.withApplication app) := by
  rw [canEnter] at htaken
  rw [Store.withApplication]
  cases hfind : s.application? app.name with
  | some a => exact h
  | none =>
    rw [hfind, Option.isSome_none, Bool.false_or] at htaken
    intro hchecked
    refine ⟨fun a ha => ?_, (h hchecked).2⟩
    rcases List.mem_append.mp ha with ha | ha
    · exact (h hchecked).1 a ha
    · rw [List.mem_singleton.mp ha]
      exact complete_of_admits htaken hchecked

theorem enter (h : Filled s) {e : Entry} (hadmitted : Entry.admitted s e) :
    Filled (Entry.enter s e) := by
  cases e with
  | ruleset r =>
    rw [Entry.enter, withRuleset]
    split
    · exact h
    · intro hchecked
      have hon : s.checked := hchecked
      have hname : r.name.isSome := by simpa [Entry.admitted, admitsRuleset, hon] using hadmitted
      refine ⟨(h hchecked).1, fun row hrow => ?_⟩
      rcases List.mem_append.mp hrow with hrow | hrow
      · exact (h hchecked).2 row hrow
      · rw [List.mem_singleton.mp hrow]
        exact hname
  | violation r name v =>
    rw [Entry.enter, withViolation]
    split
    · exact h
    · exact h.of_eq rfl rfl rfl

theorem enterAll {done : List Entry} (h : Filled s)
    (hadmitted : ∀ e ∈ done, Entry.admitted s e) : Filled (done.foldl Entry.enter s) := by
  induction done generalizing s with
  | nil => exact h
  | cons e rest ih =>
    refine ih (h.enter (hadmitted e List.mem_cons_self)) fun e' he' => ?_
    rw [Entry.admitted_congr (Entry.enter_grows s e).checked]
    exact hadmitted e' (List.mem_cons_of_mem _ he')

theorem setApplication (h : Filled s) (hadmits : s.checked → app.complete) :
    Filled (s.setApplication app) := by
  intro hchecked
  refine ⟨fun a ha => ?_, (h hchecked).2⟩
  obtain ⟨old, hold, rfl⟩ := List.mem_map.mp ha
  split
  · exact hadmits hchecked
  · exact (h hchecked).1 old hold

/-- A load enters no row that lacks a column, also when it is cut short. -/
theorem committed (h : Filled s) (hcommit : Committed setup app report s t) : Filled t := by
  have hchecked := withApplication_checked s app
  have hentered : ∀ {path rows entered found},
      Detected setup app report s path rows entered found → Filled entered ∧
        entered.checked = s.checked := by
    intro path rows entered found hdetected
    obtain ⟨done, -, hadmitted, hstate, -⟩ :=
      gather_exec_entries app.name report (s.withApplication app)
    have hgrows := gather_grows app.name report (s.withApplication app)
    rw [hdetected.gathered] at hstate hgrows
    refine ⟨?_, hgrows.checked.trans hchecked⟩
    rw [show entered = done.foldl Entry.enter (s.withApplication app) from hstate]
    exact (h.withApplication hdetected.taken).enterAll hadmitted
  have haccepted : ∀ {path rows entered found made},
      Produced setup app report s path rows entered found made →
        Filled ((entered.arrive found).acceptAll (found.solved.zip made)) := by
    intro path rows entered found made hproduced
    obtain ⟨happlications, hrulesets, -⟩ :=
      acceptAll_others (entered.arrive found) (found.solved.zip made)
    exact (hentered hproduced.toDetected).1.of_eq happlications hrulesets (acceptAll_checked _ _)
  have hrenewed : ∀ {path rows entered found made}, s.admits app →
      Produced setup app report s path rows entered found made →
        Filled (((entered.arrive found).acceptAll (found.solved.zip made)).setApplication app) := by
    intro path rows entered found made hadmits hproduced
    refine (haccepted hproduced).setApplication fun hon => complete_of_admits hadmits ?_
    rw [acceptAll_checked] at hon
    exact (hentered hproduced.toDetected).2 ▸ hon
  cases hcommit with
  | unchanged => exact h
  | entering _ htaken _ hadmitted =>
    refine (h.withApplication htaken).enterAll fun e he => ?_
    rw [Entry.admitted_congr hchecked]
    exact hadmitted e he
  | arrived hd => exact (hentered hd).1.of_eq rfl rfl rfl
  | accepted hp => exact haccepted hp
  | renewed hp hadmits => exact hrenewed hadmits hp
  | kept hp hadmits => exact (hrenewed hadmits hp).of_eq rfl rfl rfl

end Filled

/-- A store that checks its rows never holds one that lacks a column. -/
theorem Persisted.filled {s : Store} (h : Persisted s) : Filled s := by
  obtain ⟨calls, hrun⟩ := h
  refine hrun.keeps Filled.empty fun _ hu hstep => ?_
  cases hstep with
  | load c hcommit => exact hu.committed hcommit
  | find s kind style q =>
    have honly := find_onlySolutions kind style q s
    exact hu.of_eq honly.applications honly.rulesets honly.checked
  | delete => exact Filled.empty _

/-- So a rule set that is refused is not stored, whether it is looked up before or after. -/
theorem Persisted.not_hasRuleset_of_refused {s : Store} (h : Persisted s) {name : Option String}
    (hrefused : s.admitsRuleset name = false) : s.hasRuleset name = false := by
  rw [admitsRuleset, Bool.or_eq_false_iff, Bool.not_eq_false_eq_eq_true] at hrefused
  obtain ⟨hchecked, hname⟩ := hrefused
  rw [hasRuleset, List.any_eq_false]
  intro r hr heq
  have hsome := (h.filled hchecked).2 r hr
  rw [beq_iff_eq.mp heq, hname] at hsome
  cases hsome

end Remedy.Store
