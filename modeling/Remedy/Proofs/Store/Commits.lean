import Remedy.Proofs.Store.Load

/-!
# What a load has written at each point

A load writes its results in steps: the application, each rule set and violation that the report
names, the incidents together, the solutions together, the application again and the report. When it
is cut short, for whatever reason, what the steps before have written stays and nothing else does.
`Committed` lists the stores that a load can leave in this way.

Main results:

* `gather_exec_entries`: entering a report enters what it names in order, up to where it stops.
* `load_committed`: what a load leaves, whatever comes of it, is one of the stores that it writes.
-/

namespace Remedy

open Remedy.Action

/-- Actions that each enter some things enter together a first part of all these things: all of them
when they have a result. What is entered meets a condition, as long as an invariant holds. -/
theorem Action.exec_mapM_entries {σ α β ε : Type} {f : α → Action σ β} {enter : σ → ε → σ}
    {entries : α → List ε} {I : σ → Prop} {P : ε → Prop}
    (h : ∀ x s, I s → ∃ done, done <+: entries x ∧ (∀ e ∈ done, P e) ∧
      ((f x).exec s).2 = done.foldl enter s ∧ ∀ y, ((f x).exec s).1 = .ok y → done = entries x)
    (hkeep : ∀ x s, I s → I ((f x).exec s).2) (xs : List α) {s : σ} (hs : I s) :
    ∃ done, done <+: xs.flatMap entries ∧ (∀ e ∈ done, P e) ∧
      ((xs.mapM f).exec s).2 = done.foldl enter s ∧
      ∀ ys, ((xs.mapM f).exec s).1 = .ok ys → done = xs.flatMap entries := by
  induction xs generalizing s with
  | nil => exact ⟨[], List.prefix_rfl, by simp, rfl, fun _ _ => rfl⟩
  | cons x xs ih =>
    obtain ⟨first, hprefix, hmeets, hstate, hall⟩ := h x s hs
    have hs' := hkeep x s hs
    rw [exec_mapM_cons]
    rcases hfx : (f x).exec s with ⟨o, s'⟩
    rw [hfx] at hstate hall hs'
    rw [List.flatMap_cons]
    cases o with
    | error e =>
      -- the first action fails, and nothing after it is entered
      refine ⟨first, hprefix.trans (List.prefix_append ..), hmeets, hstate, fun ys hys => ?_⟩
      cases hys
    | ok y =>
      have hfirst : first = entries x := hall y rfl
      obtain ⟨rest, hrest, hmeets', hstate', hall'⟩ := ih hs'
      refine ⟨first ++ rest, ?_, ?_, ?_, fun ys hys => ?_⟩
      · rw [hfirst]
        exact (List.prefix_append_right_inj _).mpr hrest
      · intro e he
        exact (List.mem_append.mp he).elim (hmeets e) (hmeets' e)
      · rw [List.foldl_append, ← show s' = first.foldl enter s from hstate]
        exact hstate'
      · obtain ⟨zs, hzs, -⟩ := Outcome.map_eq_ok.mp hys
        rw [hfirst, hall' zs hzs]

namespace Store

/-! ## Entering a report -/

/-- Something that a report names. -/
inductive Entry where
  | ruleset (r : RuleSet)
  | violation (r : RuleSet) (name : String) (v : Violation)

/-- The store with something entered. -/
def Entry.enter (s : Store) : Entry → Store
  | .ruleset r => s.withRuleset r
  | .violation r name v => s.withViolation r name v

/-- The row of what a report names is admitted. -/
def Entry.admitted (s : Store) : Entry → Bool
  | .ruleset r => s.admitsRuleset r.name
  | .violation .. => true

theorem Entry.admitted_congr {s t : Store} (h : t.checked = s.checked) (e : Entry) :
    Entry.admitted t e = Entry.admitted s e := by
  cases e with
  | ruleset r => exact admitsRuleset_congr h r.name
  | violation => rfl

theorem Entry.enter_grows (s : Store) (e : Entry) : Grows s (Entry.enter s e) := by
  cases e with
  | ruleset r => exact withRuleset_grows r s
  | violation r name v => exact withViolation_grows r name v s

theorem foldl_enter_grows (done : List Entry) (s : Store) : Grows s (done.foldl Entry.enter s) := by
  induction done generalizing s with
  | nil => exact Grows.refl s
  | cons e rest ih => exact (Entry.enter_grows s e).trans (ih (Entry.enter s e))

/-- What a rule set names: itself, then its violations. -/
def rulesetEntries (r : RuleSet) : List Entry :=
  .ruleset r :: r.violations.map fun v => .violation r v.1 v.2

/-- What a report names, in the order in which it is entered. -/
def entries (report : Report) : List Entry :=
  report.rulesets.flatMap rulesetEntries

theorem gatherViolations_entries (application : String) (r : RuleSet) (s start : Store) :
    ∃ done, done <+: (r.violations.map fun v => Entry.violation r v.1 v.2) ∧
      (∀ e ∈ done, Entry.admitted start e) ∧
      ((r.violations.mapM (gatherViolation application r)).exec s).2 = done.foldl Entry.enter s ∧
      ∀ rows, ((r.violations.mapM (gatherViolation application r)).exec s).1 = .ok rows →
        done = r.violations.map fun v => Entry.violation r v.1 v.2 := by
  rw [List.map_eq_flatMap]
  refine exec_mapM_entries (I := fun _ => True) (fun v s _ => ?_) (fun _ _ _ => trivial) _ trivial
  refine ⟨[Entry.violation r v.1 v.2], List.prefix_rfl, by simp [Entry.admitted], ?_,
    fun _ _ => rfl⟩
  rw [gatherViolation_exec]
  rfl

theorem gatherRuleset_entries (application : String) (r : RuleSet) (s : Store) :
    ∃ done, done <+: rulesetEntries r ∧ (∀ e ∈ done, Entry.admitted s e) ∧
      ((gatherRuleset application r).exec s).2 = done.foldl Entry.enter s ∧
      ∀ rows, ((gatherRuleset application r).exec s).1 = .ok rows → done = rulesetEntries r := by
  rw [gatherRuleset_exec]
  split
  · next hadmits =>
    obtain ⟨done, hprefix, hmeets, hstate, hall⟩ :=
      gatherViolations_entries application r (s.withRuleset r) s
    refine ⟨.ruleset r :: done, List.cons_prefix_cons.mpr ⟨rfl, hprefix⟩, ?_, hstate,
      fun rows hrows => ?_⟩
    · intro e he
      rcases List.mem_cons.mp he with rfl | he
      · exact hadmits
      · exact hmeets e he
    · obtain ⟨lists, hlists, -⟩ := Outcome.bind_eq_ok.mp hrows
      have hfst := exec_mapM_fst (f := gatherViolation application r)
        (g := fun v => v.2.incidents.mapM (rowOf application r v.1))
        (fun v s => by rw [gatherViolation_exec]) r.violations (s.withRuleset r)
      rw [hall lists (hfst.trans hlists)]
      rfl
  · exact ⟨[], List.nil_prefix, by simp, rfl, fun _ hrows => nomatch hrows⟩

/-- Entering a report enters what it names in order: all of it when the rows can be made, and a first
part of it otherwise. All that is entered is admitted. -/
theorem gather_exec_entries (application : String) (report : Report) (s : Store) :
    ∃ done, done <+: entries report ∧ (∀ e ∈ done, Entry.admitted s e) ∧
      ((gather application report).exec s).2 = done.foldl Entry.enter s ∧
      ∀ rows, ((gather application report).exec s).1 = .ok rows → done = entries report := by
  have hone : ∀ (r : RuleSet) (t : Store), t.checked = s.checked →
      ∃ done, done <+: rulesetEntries r ∧ (∀ e ∈ done, Entry.admitted s e) ∧
        ((gatherRuleset application r).exec t).2 = done.foldl Entry.enter t ∧
        ∀ rows, ((gatherRuleset application r).exec t).1 = .ok rows → done = rulesetEntries r := by
    intro r t ht
    obtain ⟨done, hprefix, hmeets, hrest⟩ := gatherRuleset_entries application r t
    exact ⟨done, hprefix, fun e he => (Entry.admitted_congr ht e).symm.trans (hmeets e he), hrest⟩
  have hkeep : ∀ (r : RuleSet) (t : Store), t.checked = s.checked →
      ((gatherRuleset application r).exec t).2.checked = s.checked := fun r t ht =>
    (gatherRuleset_grows application r t).checked.trans ht
  obtain ⟨done, hprefix, hmeets, hstate, hall⟩ :=
    exec_mapM_entries hone hkeep report.rulesets rfl
  refine ⟨done, hprefix, hmeets, ?_, fun rows hrows => ?_⟩
  · rw [gather_exec]
    exact hstate
  · have hbind : ((report.rulesets.mapM (gatherRuleset application)) >>=
        fun rows => pure rows.flatten).exec s = (.ok rows, ((gather application report).exec s).2) :=
      Prod.ext hrows rfl
    obtain ⟨lists, t, hlists, -⟩ := exec_bind_eq_ok.mp hbind
    exact hall lists (by rw [hlists])

/-! ## The steps of a load -/

/-- The stores that a load leaves when it is cut short at any point or comes to its end: each is
written by one of its steps. -/
inductive Committed (setup : LoadSetup) (app : Application) (report : Report) (s : Store) :
    Store → Prop
  | unchanged : Committed setup app report s s
  /-- The application is there, and some of what the report names. -/
  | entering {path : String} (hpath : repositoryPath app = .ok path) (htaken : s.canEnter app)
    {done : List Entry} (hdone : done <+: entries report)
    (hadmitted : ∀ e ∈ done, Entry.admitted s e) :
    Committed setup app report s (done.foldl Entry.enter (s.withApplication app))
  /-- The incidents are there. -/
  | arrived {path : String} {rows : List IncidentRow} {entered : Store} {found : Detection}
    (h : Detected setup app report s path rows entered found) :
    Committed setup app report s (entered.arrive found)
  /-- The solutions are there. -/
  | accepted {path : String} {rows : List IncidentRow} {entered : Store} {found : Detection}
    {made : List Solution} (h : Produced setup app report s path rows entered found made) :
    Committed setup app report s ((entered.arrive found).acceptAll (found.solved.zip made))
  /-- The application is as it comes with the report. -/
  | renewed {path : String} {rows : List IncidentRow} {entered : Store} {found : Detection}
    {made : List Solution} (h : Produced setup app report s path rows entered found made)
    (hadmits : s.admits app) :
    Committed setup app report s
      (((entered.arrive found).acceptAll (found.solved.zip made)).setApplication app)
  /-- The report is there. -/
  | kept {path : String} {rows : List IncidentRow} {entered : Store} {found : Detection}
    {made : List Solution} (h : Produced setup app report s path rows entered found made)
    (hadmits : s.admits app) :
    Committed setup app report s
      ((((entered.arrive found).acceptAll (found.solved.zip made)).setApplication app).keepReport
        app report)

/-- What a load leaves, whatever comes of it, was written by one of its steps. -/
theorem load_committed (setup : LoadSetup) (app : Application) (report : Report) (s : Store) :
    Committed setup app report s ((load setup app report).exec s).2 := by
  have hentered : ∀ {path o entered}, repositoryPath app = .ok path → s.canEnter app →
      (gather app.name report).exec (s.withApplication app) = (o, entered) →
      Committed setup app report s entered := by
    intro path o entered hpath htaken hgather
    obtain ⟨done, hprefix, hadmitted, hstate, -⟩ :=
      gather_exec_entries app.name report (s.withApplication app)
    rw [hgather] at hstate
    rw [show entered = done.foldl Entry.enter (s.withApplication app) from hstate]
    exact .entering hpath htaken hprefix fun e he =>
      (Entry.admitted_congr (withApplication_checked s app) e).symm.trans (hadmitted e he)
  have hresult := load_result setup app report s
  generalize ((load setup app report).exec s).1 = o at hresult
  generalize ((load setup app report).exec s).2 = t at hresult ⊢
  cases hresult with
  | noRepository => exact .unchanged
  | notTaken => exact .unchanged
  | notEntered hpath htaken hrows => exact hentered hpath htaken hrows
  | notDetected h => exact hentered h.located h.taken h.gathered
  | notProduced h => exact .arrived h
  | notRenewed h _ => exact .accepted h
  | done h hadmits => exact .kept h hadmits

end Store
end Remedy
