import Remedy.Proofs.Store.FirstRow
import Remedy.Proofs.Store.Resolved

/-!
# Which solutions are found

A lookup is meant to find the solutions of the incidents that broke the same rule with the same
variables. It compares the first rows of the flattened variables only. So it also returns solutions
of incidents whose variables differ further on, and it does not return the solution of an incident
whose variables have no first row or an absent value there, not even when those very variables are
asked for.

Main results:

* `find_returns_first_row_matches`: exactly which solutions a lookup returns, and when they are those
  of incidents with equal variables.
* `find_own_variables_iff`: exactly when looking up the variables of a solved incident returns its
  solution.
-/

namespace Remedy.Store

/-! ## The comparison of variables -/

/-- The first rows of two flattened objects agree, with a value that is present. -/
def SharesFirstRow (stored asked : Fields) : Prop :=
  ∃ a b, firstRow? stored = some a ∧ firstRow? asked = some b ∧ a.value.isAbsent = false ∧
    a.compare b = .eq

/-- The first row of a flattened object has a value that is present. -/
def HasFirstValue (vars : Fields) : Prop :=
  ∃ a, IsFirstRow vars a ∧ a.value.isAbsent = false

theorem embeddedMatch_iff {stored asked : Fields} :
    embeddedMatch stored asked = true ↔ SharesFirstRow stored asked := by
  rw [embeddedMatch, SharesFirstRow]
  cases firstRow? stored with
  | none => simp
  | some a =>
    cases firstRow? asked with
    | none => simp
    | some b => simp

theorem RowValue.isAbsent_of_compare_eq {v w : RowValue} (h : v.compare w = .eq) :
    v.isAbsent = w.isAbsent := by
  cases v <;> cases w <;> first | rfl | cases h

/-- Two rows that both come first have values of which both or neither are present. -/
theorem IsFirstRow.isAbsent_eq {vars : Fields} {a b : Row} (ha : IsFirstRow vars a)
    (hb : IsFirstRow vars b) : a.value.isAbsent = b.value.isAbsent := by
  have hab := ha.2 b hb.1
  have hba := hb.2 a ha.1
  rw [Row.compare_swap a b] at hba
  have heq : a.compare b = .eq := by
    cases h : a.compare b with
    | eq => rfl
    | lt => simp [h] at hba
    | gt => exact absurd h hab
  rw [Row.compare, Ordering.then_eq_eq] at heq
  exact RowValue.isAbsent_of_compare_eq heq.2

/-- Variables match themselves when their first row has a value. -/
theorem embeddedMatch_self {vars : Fields} :
    embeddedMatch vars vars = true ↔ HasFirstValue vars := by
  rw [embeddedMatch_iff]
  constructor
  · rintro ⟨a, b, ha, -, hpresent, -⟩
    exact ⟨a, firstRow?_isFirst ha, hpresent⟩
  · rintro ⟨a, hfirst, hpresent⟩
    obtain ⟨b, hb⟩ := exists_firstRow? hfirst.1
    have hsame := hfirst.isAbsent_eq (firstRow?_isFirst hb)
    exact ⟨b, b, hb, hb, hsame ▸ hpresent, Row.compare_self b⟩

example : embeddedMatch [("a", .null), ("b", .int 1)] [("a", .null), ("b", .int 1)] = false := by
  decide +kernel

/-! ## Soundness -/

/-- A solved incident of the rule that is asked for. -/
structure SolvedUnder (q : Query) (r : IncidentRow) : Prop where
  violation : r.violation = some q.violation
  ruleset : r.ruleset = some q.ruleset
  solved : r.solutionId.isSome = true

/-- In a consistent store, what is selected are the solved incidents of the rule that match. -/
theorem Consistent.mem_solvedLike {s : Store} (hs : Consistent s) {q : Query} {asked : Fields}
    {r : IncidentRow} :
    r ∈ s.solvedLike q asked ↔
      r ∈ s.incidents ∧ SolvedUnder q r ∧ embeddedMatch r.vars asked = true := by
  rw [solvedLike]
  constructor
  · intro hr
    split at hr
    · simp only [List.mem_filter, Bool.and_eq_true, beq_iff_eq] at hr
      obtain ⟨hmem, ⟨⟨hv, hrs⟩, hsolved⟩, hmatch⟩ := hr
      exact ⟨hmem, ⟨hv, hrs, hsolved⟩, hmatch⟩
    · cases hr
  · rintro ⟨hmem, ⟨hv, hrs, hsolved⟩, hmatch⟩
    -- the violation of a stored incident is stored
    obtain ⟨v, hv', hstored⟩ := (hs.sound r hmem).rule
    rw [hv] at hv'
    cases hv'
    rw [hrs] at hstored
    rw [if_pos hstored, List.mem_filter]
    simp [hmem, hv, hrs, hsolved, hmatch]

/-- **What a lookup returns.** The solutions that a lookup returns belong, one each, to the solved
incidents of the rule whose first row agrees with the first row asked for. Each of these incidents has
variables equal to those asked for if and only if no solved incident of the rule agrees in the first
row and differs elsewhere. -/
theorem find_returns_first_row_matches {s s' : Session} (hs : Reachable s.store)
    {kind : ProducerKind} {style : Producer.SummaryStyle} {q : Query} {found : List Solution}
    (h : (find kind style q).exec s = (.ok found, s')) :
    ∃ asked, comparedVars q.vars = .ok asked ∧
    ∃ rows : List IncidentRow, rows.Sublist s.store.incidents ∧
      List.Forall₂ (fun r y => s'.store.solutionOf r = some y) rows found ∧
      (∀ r ∈ s.store.incidents, r ∈ rows ↔ SolvedUnder q r ∧ SharesFirstRow r.vars asked) ∧
      (∀ r ∈ rows, ∃ a b, IsFirstRow r.vars a ∧ IsFirstRow asked b ∧
        a.value.isAbsent = false ∧ a.compare b = .eq) ∧
      ((∀ r ∈ rows, Json.sameValue (.obj r.vars) (.obj asked) = true) ↔
        ∀ r ∈ s.store.incidents, SolvedUnder q r → SharesFirstRow r.vars asked →
          Json.sameValue (.obj r.vars) (.obj asked) = true) := by
  have hcons := hs.consistent
  obtain ⟨asked, hasked, hfound⟩ := find_eq_ok hcons.toNumbered h
  have hmem : ∀ r ∈ s.store.incidents,
      r ∈ s.store.solvedLike q asked ↔ SolvedUnder q r ∧ SharesFirstRow r.vars asked := by
    intro r hr
    rw [hcons.mem_solvedLike, embeddedMatch_iff]
    exact and_iff_right hr
  have hsub := solvedLike_sublist s.store q asked
  refine ⟨asked, hasked, s.store.solvedLike q asked, hsub, hfound, hmem, ?_, ?_⟩
  · intro r hr
    obtain ⟨-, a, b, ha, hb, hpresent, heq⟩ := (hmem r (hsub.subset hr)).mp hr
    exact ⟨a, b, firstRow?_isFirst ha, firstRow?_isFirst hb, hpresent, heq⟩
  · constructor
    · intro hall r hr hunder hshares
      exact hall r ((hmem r hr).mpr ⟨hunder, hshares⟩)
    · intro hall r hr
      obtain ⟨hunder, hshares⟩ := (hmem r (hsub.subset hr)).mp hr
      exact hall r (hsub.subset hr) hunder hshares

/-- The session after an incident with some variables came and went. -/
def askedSession (vars : Fields) : Session where
  store := cameAndWent vars

theorem reachable_askedSession {vars : Fields} (h : (Json.obj vars).proper = true) :
    Reachable (askedSession vars).store := by
  delta askedSession
  exact reachable_cameAndWent h

/-- How summaries would be asked for. -/
def plainStyle : Producer.SummaryStyle where
  guesser := default
  llamaHeader := false

/-- Asks for the rule of the incident that came and went. -/
def plainQuery (vars : Fields) : Query :=
  ⟨"rules", "rule", vars, none⟩

/-- The solution of the incident that came and went. -/
def goneSolution : Solution where
  uri := "file:///work/A.java"
  fileDiff := "c1..c2"
  codeBefore := ""
  codeAfter := ""

theorem find_returns_first_row_matches_under_other_key :
    let s := askedSession [("a", .obj [("x", .int 1)])]
    let q := plainQuery [("b", .obj [("x", .int 1)])]
    ((find .textOnly plainStyle q).exec s).1 = .ok [goneSolution] ∧
    ∃ asked, comparedVars q.vars = .ok asked ∧
    ∃ rows : List IncidentRow, rows.length = 1 ∧
      ∀ r ∈ rows, r ∈ s.store.incidents ∧ SharesFirstRow r.vars asked := by
  have hreach : Reachable (askedSession [("a", .obj [("x", .int 1)])]).store :=
    reachable_askedSession (by decide)
  have hok : ((find .textOnly plainStyle (plainQuery [("b", .obj [("x", .int 1)])])).exec
      (askedSession [("a", .obj [("x", .int 1)])])).1 = .ok [goneSolution] := by decide +kernel
  obtain ⟨asked, hasked, rows, hsub, hall, hmem, -⟩ :=
    find_returns_first_row_matches hreach (Action.exec_eq_of_fst hok)
  refine ⟨hok, asked, hasked, rows, hall.length_eq, fun r hr => ?_⟩
  exact ⟨hsub.subset hr, ((hmem r (hsub.subset hr)).mp hr).2⟩

/-- Variables that have no key in common with those of a solved incident find its solution. -/
theorem find_returns_other_variables :
    let s := askedSession [("a", .obj [("x", .int 1)])]
    let asked := [("b", .obj [("x", .int 1)])]
    Reachable s.store ∧ comparedVars asked = .ok asked ∧
    ((find .textOnly plainStyle (plainQuery asked)).exec s).1 = .ok [goneSolution] ∧
    ∀ r ∈ s.store.incidents, Json.sameValue (.obj r.vars) (.obj asked) = false :=
  ⟨reachable_askedSession (by decide), by decide +kernel, by decide +kernel, by decide +kernel⟩

/-! ## Completeness -/

/-- Variables whose first row has no value select nothing: what matches them would give it one. -/
theorem Consistent.solvedLike_eq_nil {s : Store} (hs : Consistent s) (q : Query) {asked : Fields}
    (hno : ¬ HasFirstValue asked) : s.solvedLike q asked = [] := by
  rw [List.eq_nil_iff_forall_not_mem]
  intro t ht
  obtain ⟨a, b, -, hb, hpresent, heq⟩ := embeddedMatch_iff.mp (hs.mem_solvedLike.mp ht).2.2
  rw [Row.compare, Ordering.then_eq_eq] at heq
  exact hno ⟨b, firstRow?_isFirst hb, (RowValue.isAbsent_of_compare_eq heq.2).symm.trans hpresent⟩

/-- The solution of an incident that is selected is among those returned. -/
theorem exists_mem_of_selected {t : Store} {rows : List IncidentRow} {found : List Solution}
    (hall : List.Forall₂ (fun r y => t.solutionOf r = some y) rows found) {r : IncidentRow}
    (hr : r ∈ rows) : ∃ y ∈ found, t.solutionOf r = some y := by
  induction hall with
  | nil => cases hr
  | cons hy _ ih =>
    rcases List.mem_cons.mp hr with rfl | hr
    · exact ⟨_, List.mem_cons_self, hy⟩
    · obtain ⟨y, hmem, hof⟩ := ih hr
      exact ⟨y, List.mem_cons_of_mem _ hmem, hof⟩

/-- **When an incident's own variables find it.** The rule and the variables of a solved incident are
looked up. Without summaries the lookup returns and changes nothing, and the solution of the incident
is among those returned if and only if the first row of its variables has a value. If it has one,
every lookup that returns gives the solution that the incident then has; if not, every lookup returns
nothing at all. -/
theorem find_own_variables_iff {s : Session} (hs : Reachable s.store) {r : IncidentRow}
    (hr : r ∈ s.store.incidents) {i : Nat} (hi : r.solutionId = some i) {ruleset violation : String}
    (hruleset : r.ruleset = some ruleset) (hviolation : r.violation = some violation)
    (snippet : Option String) (style : Producer.SummaryStyle) :
    (∃ found, (find .textOnly style ⟨ruleset, violation, r.vars, snippet⟩).exec s = (.ok found, s) ∧
      ((∃ y ∈ found, s.store.solutionOf r = some y) ↔ HasFirstValue r.vars)) ∧
    ∀ kind, (HasFirstValue r.vars → ∀ found s',
        (find kind style ⟨ruleset, violation, r.vars, snippet⟩).exec s = (.ok found, s') →
          ∃ y ∈ found, s'.store.solutionOf r = some y) ∧
      (¬ HasFirstValue r.vars →
        (find kind style ⟨ruleset, violation, r.vars, snippet⟩).exec s = (.ok [], s)) := by
  have hcons := hs.consistent
  have hnum := hcons.toNumbered
  have hasked := (hcons.sound r hr).compared
  have hunder : SolvedUnder ⟨ruleset, violation, r.vars, snippet⟩ r :=
    ⟨hviolation, hruleset, by rw [hi]; rfl⟩
  have hselected : HasFirstValue r.vars →
      r ∈ s.store.solvedLike ⟨ruleset, violation, r.vars, snippet⟩ r.vars :=
    fun hvalue => hcons.mem_solvedLike.mpr ⟨hr, hunder, embeddedMatch_self.mpr hvalue⟩
  have hnothing := fun (hno : ¬ HasFirstValue r.vars) =>
    hcons.solvedLike_eq_nil ⟨ruleset, violation, r.vars, snippet⟩ hno
  refine ⟨?_, fun kind => ⟨fun hvalue found s' hfind => ?_, fun hno => ?_⟩⟩
  · obtain ⟨found, hfind, hall⟩ := find_textOnly style hnum (s := s)
      (q := ⟨ruleset, violation, r.vars, snippet⟩) hasked
    refine ⟨found, hfind, fun hin => ?_,
      fun hvalue => exists_mem_of_selected hall (hselected hvalue)⟩
    by_contra hno
    rw [hnothing hno, List.forall₂_nil_left_iff] at hall
    obtain ⟨y, hy, -⟩ := hin
    rw [hall] at hy
    cases hy
  · obtain ⟨asked, hasked', hall⟩ := find_eq_ok hnum hfind
    rw [hasked] at hasked'
    cases hasked'
    exact exists_mem_of_selected hall (hselected hvalue)
  · rw [find_exec_of_ok kind style (q := ⟨ruleset, violation, r.vars, snippet⟩) hasked,
      hnothing hno]
    rfl

theorem find_own_variables_iff_at_one_variable :
    let s := askedSession [("a", .int 1)]
    ∃ r ∈ s.store.incidents, HasFirstValue r.vars ∧
      ∃ found, (find .textOnly plainStyle (plainQuery r.vars)).exec s = (.ok found, s) ∧
        ∃ y ∈ found, s.store.solutionOf r = some y := by
  have hreach : Reachable (askedSession [("a", .int 1)]).store := reachable_askedSession (by decide)
  have hr : { goneIncident with vars := [("a", .int 1)] } ∈
      (askedSession [("a", .int 1)]).store.incidents := by decide +kernel
  have hvalue : HasFirstValue [("a", .int 1)] := embeddedMatch_self.mp (by decide +kernel)
  obtain ⟨⟨found, hfind, hiff⟩, -⟩ :=
    find_own_variables_iff hreach hr rfl rfl rfl none plainStyle
  exact ⟨_, hr, hvalue, found, hfind, hiff.mpr hvalue⟩

/-- Variables that are empty find nothing, although a solved incident has just these. -/
theorem find_misses_empty_variables :
    let s := askedSession []
    Reachable s.store ∧ ((find .textOnly plainStyle (plainQuery [])).exec s).1 = .ok [] ∧
    ∃ r ∈ s.store.incidents, r.violation = some "rule" ∧ r.ruleset = some "rules" ∧ r.vars = [] ∧
      s.store.solutionOf r = some goneSolution :=
  ⟨reachable_askedSession (by decide), by decide +kernel, by decide +kernel⟩

end Remedy.Store
