import Remedy.Proofs.Prompt.Rendering
import Remedy.Proofs.Store.Integrity

/-!
# Summaries are made once

A lookup with a producer that wants summaries asks the model for the summary of each solution that it
selects and that has none yet, and keeps the answer at once. So a lookup that the model cuts short
keeps what it has got, a lookup that is repeated asks nothing, and however loads and lookups follow
each other, the model gives the summary of a solution once.

Main results:

* `useSolution_used`: what using the solution of an incident can come to, with the calls it makes.
* `find_summarizes`: what a lookup changes, asks and keeps, whatever comes of it.
* `find_again`: a lookup that has come to its end can be repeated without the model.
* `Run.once`: along every sequence of loads, lookups and deletions.
* `find_caches_summaries`: all of this for a lookup in any store that can be reached.
-/

namespace Remedy

open Remedy.Action

/-- The solution with its summary. -/
def Solution.summarized (x : Solution) (text : String) : Solution :=
  { x with summaryGenerated := some true, summary := some text }

/-- The dialogue after a prompt. -/
def Dialogue.asked (d : Dialogue) (prompt : String) : Dialogue :=
  { d with prompts := d.prompts ++ [prompt] }

/-! ## Completing a solution -/

namespace Producer

variable {kind : ProducerKind} {style : SummaryStyle} {row : IncidentRow} {x : Solution}
  {d : Dialogue}

/-- What completing a solution comes to: it stays as it is, or the model is asked for its summary and
answers or fails. -/
inductive Finished (kind : ProducerKind) (style : SummaryStyle) (row : IncidentRow) (x : Solution)
    (d : Dialogue) : Outcome Solution → Dialogue → Prop
  | kept (hdone : kind = .llmLazy → x.summaryGenerated = some true) :
    Finished kind style row x d (.ok x) d
  | answered {prompt text : String} (hwanted : x.summaryGenerated ≠ some true)
    (hprompt : summaryPrompt style row x = .ok prompt)
    (hreply : d.reply d.prompts.length prompt = .ok text) :
    Finished kind style row x d (.ok (x.summarized text)) (d.asked prompt)
  | failed {prompt : String} {e : Failure} (hwanted : x.summaryGenerated ≠ some true)
    (hprompt : summaryPrompt style row x = .ok prompt)
    (hreply : d.reply d.prompts.length prompt = .error e) :
    Finished kind style row x d (.error e) (d.asked prompt)

theorem finish_of_summarized (style : SummaryStyle) (row : IncidentRow)
    (hdone : x.summaryGenerated = some true) (d : Dialogue) :
    (finish .llmLazy style row x).exec d = (.ok x, d) := by
  rw [finish, summarize, if_pos (by rw [hdone]; rfl)]
  rfl

theorem finish_finished (kind : ProducerKind) (style : SummaryStyle) (row : IncidentRow)
    (x : Solution) (d : Dialogue) :
    Finished kind style row x d ((finish kind style row x).exec d).1
      ((finish kind style row x).exec d).2 := by
  cases kind with
  | textOnly => exact .kept fun h => by cases h
  | llmLazy =>
    by_cases hdone : x.summaryGenerated = some true
    · rw [finish_of_summarized style row hdone]
      exact .kept fun _ => hdone
    · -- the prompt can be filled in, so only the model can fail
      obtain ⟨prompt, hprompt⟩ := exists_summaryPrompt style row x
      have hask : (Dialogue.ask prompt).exec d =
          (d.reply d.prompts.length prompt, d.asked prompt) := rfl
      rw [finish, summarize, if_neg (by simpa using hdone), hprompt]
      rw [exec_bind_of_ok (exec_ofOutcome _ d), exec_bind, hask]
      cases hreply : d.reply d.prompts.length prompt with
      | ok text => exact .answered hdone hprompt hreply
      | error e => exact .failed hdone hprompt hreply

end Producer

namespace Store

variable {kind : ProducerKind} {style : Producer.SummaryStyle} {row : IncidentRow}
  {rows selection : List IncidentRow} {q : Query}

/-! ## Calls of the model -/

/-- A call of the model for the summary of a solution. -/
structure SummaryCall where
  /-- The number of the solution. -/
  solution : Nat
  prompt : String
  answer : Outcome String

/-- The solutions whose summaries the model has given, one for each call that it has answered. -/
def answered (calls : List SummaryCall) : List Nat :=
  (calls.filter fun c => c.answer.toBool).map SummaryCall.solution

/-- The calls that using the solution of an incident makes: one for each prompt that is new then. -/
def useCalls (kind : ProducerKind) (style : Producer.SummaryStyle) (row : IncidentRow)
    (s : Session) : List SummaryCall :=
  let before := s.dialogue.prompts.length
  let prompts := ((useSolution kind style row).exec s).2.dialogue.prompts.drop before
  match row.solutionId with
  | none => []
  | some i => (prompts.zipIdx before).map fun p => ⟨i, p.1, s.dialogue.reply p.2 p.1⟩

/-- The calls that using the solutions of several incidents in turn makes. -/
def rowsCalls (kind : ProducerKind) (style : Producer.SummaryStyle) :
    List IncidentRow → Session → List SummaryCall
  | [], _ => []
  | row :: rest, s =>
    useCalls kind style row s ++
      match (useSolution kind style row).exec s with
      | (.ok _, s') => rowsCalls kind style rest s'
      | (.error _, _) => []

/-- The solved incidents that a lookup selects. -/
def selected (s : Store) (q : Query) : List IncidentRow :=
  match comparedVars q.vars with
  | .ok asked => s.solvedLike q asked
  | .error _ => []

/-- The calls that a lookup makes. -/
def findCalls (kind : ProducerKind) (style : Producer.SummaryStyle) (q : Query) (s : Session) :
    List SummaryCall :=
  rowsCalls kind style (s.store.selected q) s

theorem mem_answered {calls : List SummaryCall} {i : Nat} :
    i ∈ answered calls ↔ ∃ c ∈ calls, ∃ text, c.answer = .ok text ∧ c.solution = i := by
  rw [answered, List.mem_map]
  constructor
  · rintro ⟨c, hc, hi⟩
    obtain ⟨hc, hok⟩ := List.mem_filter.mp hc
    cases hanswer : c.answer with
    | ok text => exact ⟨c, hc, text, hanswer, hi⟩
    | error e =>
      rw [hanswer] at hok
      cases hok
  · rintro ⟨c, hc, text, hanswer, hi⟩
    exact ⟨c, List.mem_filter.mpr ⟨hc, by rw [hanswer]; rfl⟩, hi⟩

theorem answered_append (calls more : List SummaryCall) :
    answered (calls ++ more) = answered calls ++ answered more := by
  rw [answered, List.filter_append, List.map_append]
  rfl

theorem useCalls_of_quiet {s : Session}
    (h : ((useSolution kind style row).exec s).2.dialogue.prompts = s.dialogue.prompts) :
    useCalls kind style row s = [] := by
  rw [useCalls, h]
  cases row.solutionId with
  | none => rfl
  | some i => simp

theorem useCalls_of_asked {s : Session} {i : Nat} {prompt : String} (hi : row.solutionId = some i)
    (h : ((useSolution kind style row).exec s).2.dialogue = s.dialogue.asked prompt) :
    useCalls kind style row s =
      [⟨i, prompt, s.dialogue.reply s.dialogue.prompts.length prompt⟩] := by
  rw [useCalls, h, hi]
  simp [Dialogue.asked]

/-- What using the solution of an incident comes to, with the session that it leaves and the calls of
the model that it makes. -/
inductive Used (kind : ProducerKind) (style : Producer.SummaryStyle) (row : IncidentRow)
    (s : Session) : Outcome Solution → Session → List SummaryCall → Prop
  | missing (hnone : s.store.solutionOf row = none) :
    Used kind style row s (.error .missingMember) s []
  | kept {x : Solution} (hx : s.store.solutionOf row = some x)
    (hdone : kind = .llmLazy → x.summaryGenerated = some true) : Used kind style row s (.ok x) s []
  | answered {i : Nat} {x : Solution} {prompt text : String} (hi : row.solutionId = some i)
    (hx : s.store.solution? i = some x) (hwanted : x.summaryGenerated ≠ some true) :
    Used kind style row s (.ok (x.summarized text))
      ⟨s.store.setSolution i (x.summarized text), s.dialogue.asked prompt⟩ [⟨i, prompt, .ok text⟩]
  | failed {i : Nat} {prompt : String} {e : Failure} (hi : row.solutionId = some i) :
    Used kind style row s (.error e) ⟨s.store, s.dialogue.asked prompt⟩ [⟨i, prompt, .error e⟩]

theorem useSolution_used (kind : ProducerKind) (style : Producer.SummaryStyle) (row : IncidentRow)
    {s : Session} (hs : Numbered s.store) :
    Used kind style row s ((useSolution kind style row).exec s).1
      ((useSolution kind style row).exec s).2 (useCalls kind style row s) := by
  cases hof : s.store.solutionOf row with
  | none =>
    have hexec := useSolution_missing kind style hof
    rw [useCalls_of_quiet (by rw [hexec]), hexec]
    exact .missing hof
  | some x =>
    obtain ⟨i, hi, hx⟩ := Option.bind_eq_some_iff.mp hof
    have hexec := useSolution_exec kind style hi hx
    have hfinished := Producer.finish_finished kind style row x s.dialogue
    rcases hrun : (Producer.finish kind style row x).exec s.dialogue with ⟨o, d⟩
    rw [hrun] at hexec hfinished
    -- the calls are read off the dialogue that completing the solution leaves
    have hdialogue : ((useSolution kind style row).exec s).2.dialogue = d := by
      rw [hexec]
      cases o <;> rfl
    cases hfinished with
    | kept hdone =>
      rw [useCalls_of_quiet (by rw [hdialogue]), hexec]
      dsimp only
      rw [hs.setSolution_self hx]
      exact .kept hof hdone
    | answered hwanted _ hreply =>
      rw [useCalls_of_asked hi hdialogue, hexec, hreply]
      exact .answered hi hx hwanted
    | failed _ _ hreply =>
      rw [useCalls_of_asked hi hdialogue, hexec, hreply]
      exact .failed hi

/-! ## What a lookup changes -/

/-- A solution is as it was, or it belongs to an incident of the selection, had no summary and has got
one. -/
def Completes (selection : List IncidentRow) (r r' : SolutionRow) : Prop :=
  r' = r ∨ (∃ row ∈ selection, row.solutionId = some r.id) ∧
    r.solution.summaryGenerated ≠ some true ∧
    ∃ text, r' = { r with solution := r.solution.summarized text }

/-- Only solutions of the selection have changed, and of these only the summary and the mark that it
has been made. -/
structure OnlySummaries (selection : List IncidentRow) (s t : Store) : Prop where
  others : t = { s with solutions := t.solutions }
  solutions : ∃ completed : SolutionRow → SolutionRow,
    t.solutions = s.solutions.map completed ∧
      ∀ r ∈ s.solutions, Completes selection r (completed r)

theorem Completes.trans {r r' r'' : SolutionRow} (h₁ : Completes selection r r')
    (h₂ : Completes selection r' r'') : Completes selection r r'' := by
  rcases h₁ with rfl | ⟨hselected, hwanted, text, rfl⟩
  · exact h₂
  · rcases h₂ with rfl | ⟨-, hstill, -⟩
    · exact .inr ⟨hselected, hwanted, text, rfl⟩
    · exact absurd rfl hstill

theorem OnlySummaries.refl (selection : List IncidentRow) (s : Store) :
    OnlySummaries selection s s :=
  ⟨rfl, fun r => r, (List.map_id' _).symm, fun _ _ => .inl rfl⟩

theorem OnlySummaries.trans {s t u : Store} (h₁ : OnlySummaries selection s t)
    (h₂ : OnlySummaries selection t u) : OnlySummaries selection s u := by
  obtain ⟨hothers₁, first, hfirst, hall₁⟩ := h₁
  obtain ⟨hothers₂, second, hsecond, hall₂⟩ := h₂
  refine ⟨?_, second ∘ first, ?_, ?_⟩
  · rw [hothers₂, hothers₁]
  · rw [hsecond, hfirst, List.map_map]
  · intro r hr
    have hmem : first r ∈ t.solutions := hfirst ▸ List.mem_map_of_mem hr
    exact (hall₁ r hr).trans (hall₂ (first r) hmem)

/-- Giving one solution its summary. -/
theorem Numbered.onlySummaries_setSolution {s : Store} (hs : Numbered s) {i : Nat} {x : Solution}
    (hrow : row ∈ selection) (hi : row.solutionId = some i) (hx : s.solution? i = some x)
    (hwanted : x.summaryGenerated ≠ some true) (text : String) :
    OnlySummaries selection s (s.setSolution i (x.summarized text)) := by
  refine ⟨rfl, _, rfl, ?_⟩
  intro r hr
  obtain ⟨found, hfound, rfl⟩ := Option.map_eq_some_iff.mp hx
  have hid : found.id = i := by simpa using List.find?_some hfound
  split
  · next hri =>
    -- only one solution has the number
    have hsame : r = found := List.inj_on_of_nodup_map hs.solutionIds hr
      (List.mem_of_find?_eq_some hfound) ((beq_iff_eq.mp hri).trans hid.symm)
    subst hsame
    exact .inr ⟨⟨row, hrow, hid ▸ hi⟩, hwanted, text, rfl⟩
  · exact .inl rfl

/-! ## Each summary is made once -/

/-- Solutions that have their summary stay as they are. -/
def KeepsSummaries (s t : Store) : Prop :=
  ∀ i x, s.solution? i = some x → x.summaryGenerated = some true → t.solution? i = some x

/-- From one store to the other the model was called for summaries. It has given those of solutions
that had none, each once, and they are kept. -/
structure Once (s t : Store) (calls : List SummaryCall) : Prop where
  keeps : KeepsSummaries s t
  wanted : ∀ c ∈ calls, ∀ text, c.answer = .ok text →
    ∀ x, s.solution? c.solution = some x → x.summaryGenerated ≠ some true
  stored : ∀ c ∈ calls, ∀ text, c.answer = .ok text → ∃ x, t.solution? c.solution = some x ∧
    x.summaryGenerated = some true ∧ x.summary = some text
  distinct : (answered calls).Nodup

theorem Once.of_keeps {s t : Store} (h : KeepsSummaries s t) : Once s t [] where
  keeps := h
  wanted := by simp
  stored := by simp
  distinct := List.nodup_nil

theorem Once.append {s t u : Store} {calls more : List SummaryCall} (h₁ : Once s t calls)
    (h₂ : Once t u more) : Once s u (calls ++ more) where
  keeps := fun i x hx hdone => h₂.keeps i x (h₁.keeps i x hx hdone) hdone
  wanted := by
    intro c hc text hanswer x hx
    rcases List.mem_append.mp hc with hc | hc
    · exact h₁.wanted c hc text hanswer x hx
    · intro hdone
      exact h₂.wanted c hc text hanswer x (h₁.keeps _ x hx hdone) hdone
  stored := by
    intro c hc text hanswer
    rcases List.mem_append.mp hc with hc | hc
    · obtain ⟨x, hx, hdone, hsummary⟩ := h₁.stored c hc text hanswer
      exact ⟨x, h₂.keeps _ x hx hdone, hdone, hsummary⟩
    · exact h₂.stored c hc text hanswer
  distinct := by
    rw [answered_append, List.nodup_append]
    refine ⟨h₁.distinct, h₂.distinct, ?_⟩
    -- what was given first is there when the others are asked for
    rintro i hi j hj rfl
    obtain ⟨c, hc, text, hanswer, rfl⟩ := mem_answered.mp hi
    obtain ⟨c', hc', text', hanswer', hsame⟩ := mem_answered.mp hj
    obtain ⟨x, hx, hdone, -⟩ := h₁.stored c hc text hanswer
    rw [← hsame] at hx
    exact h₂.wanted c' hc' text' hanswer' x hx hdone

/-- What lookups do to a session, with the calls that they make. -/
structure Summarizes (selection : List IncidentRow) (s t : Session) (calls : List SummaryCall) : Prop
    extends Once s.store t.store calls, OnlySummaries selection s.store t.store where
  dialogue : t.dialogue =
    { s.dialogue with prompts := s.dialogue.prompts ++ calls.map SummaryCall.prompt }

theorem Summarizes.refl (selection : List IncidentRow) (s : Session) :
    Summarizes selection s s [] where
  toOnce := .of_keeps fun _ _ hx _ => hx
  toOnlySummaries := .refl selection s.store
  dialogue := by simp

theorem Summarizes.append {s t u : Session} {calls more : List SummaryCall}
    (h₁ : Summarizes selection s t calls) (h₂ : Summarizes selection t u more) :
    Summarizes selection s u (calls ++ more) where
  toOnce := h₁.toOnce.append h₂.toOnce
  toOnlySummaries := h₁.toOnlySummaries.trans h₂.toOnlySummaries
  dialogue := by simp [h₂.dialogue, h₁.dialogue]

theorem useSolution_summarizes (kind : ProducerKind) (style : Producer.SummaryStyle) {s : Session}
    (hs : Numbered s.store) (hrow : row ∈ selection) :
    Summarizes selection s ((useSolution kind style row).exec s).2
      (useCalls kind style row s) := by
  have hused := useSolution_used kind style row hs
  generalize ((useSolution kind style row).exec s).1 = o at hused
  generalize ((useSolution kind style row).exec s).2 = t at hused ⊢
  generalize useCalls kind style row s = calls at hused ⊢
  cases hused with
  | missing => exact .refl selection _
  | kept => exact .refl selection _
  | @answered i x prompt text hi hx hwanted =>
    have hnew : (s.store.setSolution i (x.summarized text)).solution? i =
        some (x.summarized text) := by
      rw [solution?_setSolution, if_pos rfl, hx]
      rfl
    refine { keeps := ?_, wanted := ?_, stored := ?_, distinct := ?_, dialogue := rfl
             toOnlySummaries := hs.onlySummaries_setSolution hrow hi hx hwanted text }
    · intro j y hy hdone
      have hji : j ≠ i := by
        rintro rfl
        cases hx.symm.trans hy
        exact hwanted hdone
      rw [solution?_setSolution, if_neg hji]
      exact hy
    · simpa [hx] using hwanted
    · simpa [hnew] using ⟨rfl, rfl⟩
    · exact List.nodup_singleton i
  | failed =>
    refine { keeps := fun _ _ hx _ => hx, wanted := ?_, stored := ?_, distinct := List.nodup_nil
             toOnlySummaries := .refl selection s.store, dialogue := rfl }
    · simp
    · simp

theorem Numbered.useSolution {s : Session} (hs : Numbered s.store) (kind : ProducerKind)
    (style : Producer.SummaryStyle) (row : IncidentRow) :
    Numbered ((useSolution kind style row).exec s).2.store :=
  hs.onlySolutions (useSolution_onlySolutions kind style row s)

/-- By induction over the incidents that are used: a failure ends the calls. -/
theorem useSolutions_summarizes (kind : ProducerKind) (style : Producer.SummaryStyle) {s : Session}
    (hs : Numbered s.store) (hrows : rows ⊆ selection) :
    Summarizes selection s ((rows.mapM (useSolution kind style)).exec s).2
      (rowsCalls kind style rows s) := by
  induction rows generalizing s with
  | nil => exact .refl selection s
  | cons row rest ih =>
    obtain ⟨hrow, hrest⟩ := List.cons_subset.mp hrows
    have hfirst := useSolution_summarizes kind style hs hrow
    have hnumbered := hs.useSolution kind style row
    rw [exec_mapM_cons, rowsCalls]
    rcases hrun : (useSolution kind style row).exec s with ⟨o, s'⟩
    rw [hrun] at hfirst hnumbered
    cases o with
    | error e =>
      dsimp only
      rw [List.append_nil]
      exact hfirst
    | ok y => exact hfirst.append (ih hnumbered hrest)

theorem find_exec_selected {s : Session} {asked : Fields}
    (hasked : comparedVars q.vars = .ok asked) :
    (find kind style q).exec s =
      ((s.store.selected q).mapM (useSolution kind style)).exec s := by
  rw [find_exec_of_ok kind style hasked, selected, hasked]

/-- What a lookup changes, asks and keeps, whatever comes of it. -/
theorem find_summarizes (kind : ProducerKind) (style : Producer.SummaryStyle) (q : Query)
    {s : Session} (hs : Numbered s.store) :
    Summarizes (s.store.selected q) s ((find kind style q).exec s).2
      (findCalls kind style q s) := by
  cases hasked : comparedVars q.vars with
  | error e =>
    rw [find_exec_of_error kind style hasked, findCalls, selected, hasked]
    exact .refl [] s
  | ok asked =>
    rw [find_exec_selected hasked]
    exact useSolutions_summarizes kind style hs (List.Subset.refl _)

/-! ## Repeating a lookup -/

theorem summaryGenerated_of_useSolution {s s' : Session} {y : Solution}
    (h : (useSolution .llmLazy style row).exec s = (.ok y, s')) : y.summaryGenerated = some true := by
  cases hof : s.store.solutionOf row with
  | none =>
    rw [useSolution_missing .llmLazy style hof] at h
    cases h
  | some x =>
    obtain ⟨i, hi, hx⟩ := Option.bind_eq_some_iff.mp hof
    rw [useSolution_exec .llmLazy style hi hx] at h
    have hfinished := Producer.finish_finished .llmLazy style row x s.dialogue
    rcases hrun : (Producer.finish .llmLazy style row x).exec s.dialogue with ⟨o, d⟩
    rw [hrun] at h hfinished
    cases hfinished with
    | kept hdone =>
      cases h
      exact hdone rfl
    | answered =>
      cases h
      rfl
    | failed => cases h

/-- Incidents that have been used have solutions with summaries. -/
theorem useSolutions_summarized (hrows : rows.Pairwise fun r t => r.solutionId ≠ t.solutionId)
    {s s' : Session} {ys : List Solution}
    (h : (rows.mapM (useSolution .llmLazy style)).exec s = (.ok ys, s')) :
    List.Forall₂ (fun r y => y.summaryGenerated = some true ∧ s'.store.solutionOf r = some y)
      rows ys := by
  have hdone : ∀ y ∈ ys, y.summaryGenerated = some true := by
    intro y hy
    obtain ⟨row, -, t, t', hrow⟩ := exec_mapM_mem h hy
    exact summaryGenerated_of_useSolution hrow
  have hall := (useSolutions_eq_ok hrows h).flip
  exact ((List.forall₂_and_left ys rows).mpr ⟨hdone, hall⟩).flip

/-- Using solutions that have their summaries asks nothing and changes nothing. -/
theorem useSolutions_of_summarized (style : Producer.SummaryStyle) {s : Session}
    (hs : Numbered s.store) {ys : List Solution}
    (h : List.Forall₂ (fun r y => y.summaryGenerated = some true ∧ s.store.solutionOf r = some y)
      rows ys) : (rows.mapM (useSolution .llmLazy style)).exec s = (.ok ys, s) := by
  induction h with
  | nil => rfl
  | @cons row y rows ys hy _ ih =>
    obtain ⟨hdone, hof⟩ := hy
    have hfirst : (useSolution .llmLazy style row).exec s = (.ok y, s) := by
      obtain ⟨i, hi, hx⟩ := Option.bind_eq_some_iff.mp hof
      rw [useSolution_exec .llmLazy style hi hx, Producer.finish_of_summarized style row hdone]
      dsimp only
      rw [hs.setSolution_self hx]
    rw [exec_mapM_cons, hfirst]
    dsimp only
    rw [ih]
    rfl

theorem OnlySolutions.selected {s t : Store} (h : OnlySolutions s t) (q : Query) :
    t.selected q = s.selected q := by
  rw [Store.selected, Store.selected]
  cases comparedVars q.vars with
  | error e => rfl
  | ok asked =>
    dsimp only
    rw [solvedLike, solvedLike, hasViolation, hasViolation, h.violations, h.incidents]

theorem Numbered.pairwise_selected {s : Store} (h : Numbered s) (q : Query) :
    (s.selected q).Pairwise fun r t => r.solutionId ≠ t.solutionId := by
  rw [selected]
  cases comparedVars q.vars with
  | error e => exact .nil
  | ok asked => exact h.pairwise_solvedLike q asked

/-- A lookup that has come to its end gives the same again, whatever the model is. -/
theorem find_again {s s' : Session} (hs : Numbered s.store) {found : List Solution}
    (h : (find .llmLazy style q).exec s = (.ok found, s')) (d : Dialogue) :
    (find .llmLazy style q).exec ⟨s'.store, d⟩ = (.ok found, ⟨s'.store, d⟩) := by
  have honly := find_onlySolutions .llmLazy style q s
  rw [h] at honly
  cases hasked : comparedVars q.vars with
  | error e =>
    rw [find_exec_of_error .llmLazy style hasked] at h
    cases h
  | ok asked =>
    rw [find_exec_selected hasked] at h ⊢
    have hall := useSolutions_summarized (hs.pairwise_selected q) h
    dsimp only
    rw [honly.selected q]
    exact useSolutions_of_summarized (s := ⟨s'.store, d⟩) style (hs.onlySolutions honly) hall

/-! ## A model that fails -/

/-- A call that fails is made for the incident at which using the solutions stops. -/
theorem rowsCalls_failed {s : Session} (hs : Numbered s.store) {c : SummaryCall} {e : Failure}
    (hc : c ∈ rowsCalls kind style rows s) (hfails : c.answer = .error e) :
    ∃ before row after ys s', rows = before ++ row :: after ∧ row.solutionId = some c.solution ∧
      (before.mapM (useSolution kind style)).exec s = (.ok ys, s') ∧
      ∃ d, (rows.mapM (useSolution kind style)).exec s = (.error e, ⟨s'.store, d⟩) := by
  induction rows generalizing s with
  | nil => cases hc
  | cons row rest ih =>
    have hused := useSolution_used kind style row hs
    have hnumbered := hs.useSolution kind style row
    rw [rowsCalls] at hc
    rw [exec_mapM_cons]
    rcases hrun : (useSolution kind style row).exec s with ⟨o, s'⟩
    rw [hrun] at hused hnumbered hc
    rcases List.mem_append.mp hc with hc | hc
    · -- the call is for the first incident
      generalize useCalls kind style row s = calls at hused hc
      cases hused with
      | missing => cases hc
      | kept => cases hc
      | answered =>
        cases List.mem_singleton.mp hc
        cases hfails
      | failed hi =>
        cases List.mem_singleton.mp hc
        cases hfails
        exact ⟨[], row, rest, [], s, rfl, hi, rfl, _, rfl⟩
    · cases o with
      | error e' => cases hc
      | ok y =>
        obtain ⟨before, stop, after, ys, s'', rfl, hstop, hbefore, d, hrest⟩ := ih hnumbered hc
        refine ⟨row :: before, stop, after, y :: ys, s'', rfl, hstop, ?_, d, ?_⟩
        · rw [exec_mapM_cons, hrun]
          dsimp only
          rw [hbefore]
          rfl
        · dsimp only
          rw [hrest]
          rfl

/-- If the model fails at a solution, the lookup fails; the solutions before it have their summaries,
and those from there on are as they were. -/
theorem find_failed {s : Session} (hs : Numbered s.store) {c : SummaryCall} {e : Failure}
    (hc : c ∈ findCalls .llmLazy style q s) (hfails : c.answer = .error e) :
    ((find .llmLazy style q).exec s).1 = .error e ∧
    ∃ before row after, s.store.selected q = before ++ row :: after ∧
      row.solutionId = some c.solution ∧
      (∀ r ∈ before, ∃ x, ((find .llmLazy style q).exec s).2.store.solutionOf r = some x ∧
        x.summaryGenerated = some true) ∧
      ∀ r ∈ row :: after, ((find .llmLazy style q).exec s).2.store.solutionOf r =
        s.store.solutionOf r := by
  cases hasked : comparedVars q.vars with
  | error e' =>
    rw [findCalls, selected, hasked] at hc
    cases hc
  | ok asked =>
    obtain ⟨before, row, after, ys, s', hrows, hrow, hbefore, d, hrun⟩ :=
      rowsCalls_failed hs hc hfails
    have hpairwise := hs.pairwise_selected q
    rw [hrows, List.pairwise_append] at hpairwise
    obtain ⟨hdistinct, -, hapart⟩ := hpairwise
    rw [find_exec_selected hasked, hrun]
    refine ⟨rfl, before, row, after, hrows, hrow, ?_, ?_⟩
    · intro r hr
      obtain ⟨k, hk, rfl⟩ := List.mem_iff_getElem.mp hr
      have hall := useSolutions_summarized hdistinct hbefore
      obtain ⟨hdone, hof⟩ := hall.get hk (hall.length_eq ▸ hk)
      exact ⟨_, hof, hdone⟩
    · intro r hr
      have hsame := solutionOf_useSolutions_of_ne .llmLazy style
        (fun t ht => (hapart t ht r hr).symm) s
      rw [hbefore] at hsame
      exact hsame

/-! ## Sequences of loads and lookups -/

/-- A load only adds solutions, also if it is cut short. -/
theorem Committed.solutions_grow {setup : LoadSetup} {app : Application} {report : Report}
    {s t : Store} (h : Committed setup app report s t) : s.solutions <+: t.solutions := by
  have haccepted : ∀ {path rows entered found made},
      Produced setup app report s path rows entered found made →
      s.solutions <+: ((entered.arrive found).acceptAll (found.solved.zip made)).solutions := by
    intro path rows entered found made h
    obtain ⟨-, hsolutions, -⟩ := gather_rows h.gathered
    rw [acceptAll_solutions, ← hsolutions]
    exact List.prefix_append ..
  cases h with
  | unchanged => exact List.prefix_rfl
  | entering =>
    rw [(foldl_enter_grows _ _).solutions, (withApplication_others s app).2.1]
  | arrived h =>
    obtain ⟨-, hsolutions, -⟩ := gather_rows h.gathered
    exact hsolutions ▸ List.prefix_rfl
  | accepted h => exact haccepted h
  | renewed h _ => exact haccepted h
  | kept h _ => exact haccepted h

theorem KeepsSummaries.of_grown {s t : Store} (h : s.solutions <+: t.solutions) :
    KeepsSummaries s t := by
  intro i x hx _
  obtain ⟨row, hrow, rfl⟩ := Option.map_eq_some_iff.mp hx
  exact Option.map_eq_some_iff.mpr ⟨row, h.find?_eq_some hrow, rfl⟩

/-- What has been asked of the model for summaries, after one more call of the store. -/
def Call.log (made : List SummaryCall) : Call → List SummaryCall
  | .load _ => made
  | .find kind style q s => made ++ findCalls kind style q s
  | .delete => []

/-- Calls lead to the store, and these are their calls for summaries since it was last empty. -/
def Logged (s : Store) (made : List SummaryCall) : Prop :=
  ∃ calls, Run calls s ∧ calls.foldl Call.log [] = made

theorem Logged.persisted {s : Store} {made : List SummaryCall} (h : Logged s made) :
    Persisted s :=
  let ⟨calls, hrun, _⟩ := h
  ⟨calls, hrun⟩

theorem Logged.step {s t : Store} {made : List SummaryCall} {call : Call} (hs : Logged s made)
    (h : Step s call t) : Logged t (call.log made) := by
  obtain ⟨calls, hrun, rfl⟩ := hs
  exact ⟨calls ++ [call], hrun.step h, by rw [List.foldl_append]; rfl⟩

/-- However calls follow each other, each summary is made once and kept. -/
theorem Run.once {s : Store} {calls : List Call} (h : Run calls s) :
    Once {} s (calls.foldl Call.log []) := by
  induction h with
  | empty => exact .of_keeps fun _ _ hx _ => hx
  | @step calls s t call hs hstep ih =>
    rw [List.foldl_append]
    cases hstep with
    | load c hcommit =>
      have hload := Once.of_keeps (.of_grown hcommit.solutions_grow)
      have hboth := ih.append hload
      rwa [List.append_nil] at hboth
    | find s kind style q =>
      have hnumbered := (Persisted.integrity ⟨calls, hs⟩).toNumbered
      exact ih.append (find_summarizes kind style q hnumbered).toOnce
    | delete => exact .of_keeps fun _ _ hx _ => hx

theorem Logged.once {s : Store} {made : List SummaryCall} (h : Logged s made) : Once {} s made := by
  obtain ⟨calls, hrun, rfl⟩ := h
  exact hrun.once

/-- **A lookup makes each summary once and touches nothing else.** In every store that loads, lookups
and deletions lead to, with any model: a lookup that wants summaries changes only the summaries of
solutions that it selects, with the marks that they have been made, and asks the model only what is
written down of its calls. After it has come to its end, it can be repeated with any model, which is
not asked; nothing changes and the same solutions are returned. If the model fails at one of the
selected solutions, the lookup fails, those before it keep their summaries and the others are as they
were. Each summary that the model has given is kept whatever follows, so since the store was last
empty no solution has been given a summary twice. Without summaries a lookup leaves everything as it
was. -/
theorem find_caches_summaries {s : Session} (hs : Persisted s.store) (style : Producer.SummaryStyle)
    (q : Query) :
    let t := ((find .llmLazy style q).exec s).2
    let made := findCalls .llmLazy style q s
    OnlySummaries (s.store.selected q) s.store t.store ∧
    t.dialogue =
      { s.dialogue with prompts := s.dialogue.prompts ++ made.map SummaryCall.prompt } ∧
    (∀ found, ((find .llmLazy style q).exec s).1 = .ok found →
      ∀ d, (find .llmLazy style q).exec ⟨t.store, d⟩ = (.ok found, ⟨t.store, d⟩)) ∧
    (∀ c ∈ made, ∀ e, c.answer = .error e →
      ((find .llmLazy style q).exec s).1 = .error e ∧
      ∃ before row after, s.store.selected q = before ++ row :: after ∧
        row.solutionId = some c.solution ∧
        (∀ r ∈ before, ∃ x, t.store.solutionOf r = some x ∧ x.summaryGenerated = some true) ∧
        ∀ r ∈ row :: after, t.store.solutionOf r = s.store.solutionOf r) ∧
    (∀ c ∈ made, ∀ text, c.answer = .ok text → ∃ x, t.store.solution? c.solution = some x ∧
      x.summaryGenerated = some true ∧ x.summary = some text) ∧
    (∀ calls, Logged s.store calls → (answered (calls ++ made)).Nodup) ∧
    ((find .textOnly style q).exec s).2 = s := by
  intro t made
  have hnumbered : Numbered s.store := hs.integrity.toNumbered
  have hfind := find_summarizes .llmLazy style q hnumbered
  refine ⟨hfind.toOnlySummaries, hfind.dialogue, ?_, ?_, hfind.stored, ?_, ?_⟩
  · intro found hok d
    exact find_again hnumbered (exec_eq_of_fst hok) d
  · intro c hc e hfails
    exact find_failed hnumbered hc hfails
  · intro calls hcalls
    exact (hcalls.once.append hfind.toOnce).distinct
  · cases hasked : comparedVars q.vars with
    | error e => rw [find_exec_of_error .textOnly style hasked]
    | ok asked =>
      obtain ⟨found, hfound, -⟩ := find_textOnly style hnumbered hasked
      rw [hfound]

/-! ### An example -/

/-- A load that wants summaries. -/
def wantingCall (commit : String) (incidents : List Incident) : LoadCall :=
  { plainCall "a" commit incidents with setup := { plainSetup with producer := .llmLazy } }

/-- Two incidents came and went; their solutions have no summaries yet. -/
@[irreducible]
def bothWent : Store :=
  let came := ((wantingCall "c1" [plainIncident 3 [("x", .int 1)],
    plainIncident 5 [("x", .int 1)]]).run.exec {}).2
  ((wantingCall "c2" []).run.exec came).2

theorem logged_bothWent : Logged bothWent [] := by
  delta bothWent
  have hempty : Logged {} [] := ⟨[], .empty true, rfl⟩
  exact (hempty.step (LoadCall.step _ _)).step (LoadCall.step _ _)

/-- Looks both of them up. -/
def lookBothUp : Action Session (List Solution) :=
  find .llmLazy ⟨default, false⟩ ⟨"rules", "rule", [("x", .int 1)], none⟩

/-- With a model that fails at every second call. -/
def hesitant : Session :=
  ⟨bothWent, Dialogue.replaying [.text "first", .failure "busy"]⟩

/-- The first lookup fails at the second solution and keeps the first summary, the second lookup asks
for the one that is missing, and the third asks nothing. -/
theorem find_caches_summaries_hesitant :
    let t := (lookBothUp.exec hesitant).2
    let u := (lookBothUp.exec t).2
    Persisted t.store ∧ (lookBothUp.exec hesitant).1 = .error (.told "busy") ∧
    t.store.solutions.map (fun r => (r.id, r.solution.summary)) =
      [(1, some "first"), (2, none)] ∧
    ∃ found, (lookBothUp.exec t).1 = .ok found ∧
      found.map Solution.summary = [some "first", some "first"] ∧
      (∀ d, lookBothUp.exec ⟨u.store, d⟩ = (.ok found, ⟨u.store, d⟩)) ∧
      ∃ calls, Logged u.store calls ∧ answered calls = [1, 2] ∧ (answered calls).Nodup := by
  intro t u
  have hfirst : Logged t.store _ := logged_bothWent.step (.find hesitant .llmLazy _ _)
  have hsecond : Logged u.store _ := hfirst.step (.find t .llmLazy _ _)
  have hok : (lookBothUp.exec t).1.map (fun found => found.map Solution.summary) =
      .ok [some "first", some "first"] := by decide +kernel
  obtain ⟨found, hfound, hsummaries⟩ := Outcome.map_eq_ok.mp hok
  obtain ⟨-, -, hagain, -, -, honce, -⟩ := find_caches_summaries (s := t) hfirst.persisted
    ⟨default, false⟩ ⟨"rules", "rule", [("x", .int 1)], none⟩
  exact ⟨hfirst.persisted, by decide +kernel, by decide +kernel, found, hfound, hsummaries,
    hagain found hfound, _, hsecond, by decide +kernel, honce _ hfirst⟩

end Store
end Remedy
