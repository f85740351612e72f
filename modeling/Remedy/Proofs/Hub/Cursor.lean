import Remedy.Proofs.Hub.Credentials
import Remedy.Proofs.Hub.Issues

/-!
# Which analyses are imported again

An import asks the hub for the analyses after a number and gives a number for the next import to go on
from: the number of the first analysis in the answer. Nothing says that the first is the last one
made. If an analysis with a greater number comes behind it, that number is asked for again, and its
report is loaded a second time.

Main results:

* `importNew_exec`: what an import gives and what it loads.
* `Polls.since_le`: from import to import the number never gets smaller.
* `polls_of_poll`: polling is a sequence of imports, each after the number that the one before gave.
* `loaded_once_iff`: when the number covers an answer, and when nothing is loaded twice.
* `loaded_twice_in_ascending_order`: an analysis that is loaded twice.
-/

namespace Remedy.Hub

open Remedy.Action

/-! ## Actions that load nothing -/

theorem keeps_fetch (setup : ImportSetup) (path : String) (condition : Option (String × String)) :
    Keeps Importer.loaded (fetch setup path condition) :=
  fun _ => rfl

theorem keeps_pagesFrom {σ τ α : Type} {view : σ → τ} {page : Nat → Action σ Json}
    {take : α → Json → Action σ α} (hpage : ∀ n, Keeps view (page n))
    (htake : ∀ got v, Keeps view (take got v)) (fuel : Nat) (previous : Option Nat) (offset : Nat)
    (got : α) : Keeps view (pagesFrom page take fuel previous offset got) := by
  induction fuel generalizing previous offset got with
  | zero => exact fun _ => rfl
  | succ fuel ih =>
    rw [pagesFrom]
    split
    · exact fun _ => rfl
    · refine (hpage offset).bind fun v => ?_
      refine (Keeps.ofOutcome _).bind fun items => ?_
      refine (Keeps.foldlM (fun got v => ?_) items _).bind fun next => ih _ _ _
      exact (htake got.1 v).bind fun _ => fun _ => rfl

theorem keeps_applicationOf (setup : ImportSetup) (a : Analysis) :
    Keeps Importer.loaded (applicationOf setup a) := by
  unfold applicationOf credentialsOf
  refine (keeps_fetch setup _ _).bind fun v => ?_
  refine (Keeps.ofOutcome _).bind fun found => ?_
  refine (Keeps.foldlM (fun best i => ?_) _ _).bind fun credentials => ?_
  · refine (keeps_fetch setup _ _).bind fun v => ?_
    exact (Keeps.ofOutcome _).bind fun _ => fun _ => rfl
  · exact (Keeps.ofOutcome _).bind fun _ => fun _ => rfl

theorem keeps_processAnalysis (setup : ImportSetup) (a : Analysis) :
    Keeps Importer.loaded (processAnalysis setup a) := by
  rw [processAnalysis_eq]
  refine (keeps_applicationOf setup a).bind fun found => ?_
  refine Keeps.bind ?_ fun data => Keeps.ofOutcome _
  refine keeps_pagesFrom (fun _ => keeps_fetch setup _ _) (fun data v => ?_) _ _ _ _
  exact (Keeps.ofOutcome _).bind fun _ => fun _ => rfl

theorem keeps_cloneAt (setup : ImportSetup) (url branch commit : Json) (destination : String)
    (identity : Option Identity) :
    Keeps Importer.loaded (cloneAt setup url branch commit destination identity) := by
  intro s
  obtain ⟨taken, hstate, -⟩ :=
    cloneCall_run_snd setup ⟨url, branch, commit, destination, identity⟩ s
  have hloaded := congrArg Importer.loaded hstate
  exact hloaded

/-! ## What one import loads -/

/-- The analyses after a number, as the hub gives them. -/
def newAnalyses (setup : ImportSetup) (last : Int) : Importing (List Analysis) := do
  let v ← fetch setup "/analyses" (some ("filter", "id>" ++ Decimal.int last))
  Action.ofOutcome (do (← v.each).mapM (readObject Analysis.decode))

theorem importNew_eq (setup : ImportSetup) (last : Int) :
    importNew setup last = (do
      let analyses ← newAnalyses setup last
      (← processAnalyses setup analyses).forM (install setup)
      return (analyses.head?.map Analysis.id).getD last) := by
  simp only [importNew, newAnalyses, bind_assoc]

theorem analysis_of_processed {setup : ImportSetup} {a : Analysis} {s t : Importer} {x : Imported}
    (h : (processAnalysis setup a).exec s = (.ok (some x), t)) : x.analysis = a.id := by
  rw [processAnalysis_eq, exec_bind_eq_ok] at h
  obtain ⟨⟨application, credentials⟩, s₁, -, h⟩ := h
  obtain ⟨data, s₂, -, h⟩ := exec_bind_eq_ok.mp h
  rw [exec_ofOutcome, Prod.mk.injEq, importedFrom] at h
  split at h
  · cases h.1
  · obtain ⟨report, -, hx⟩ := Outcome.map_eq_ok.mp h.1
    cases hx
    rfl

/-- The reports are of some of the analyses, in their order. -/
theorem processAnalyses_sublist {setup : ImportSetup} {analyses : List Analysis} {s t : Importer}
    {reports : List Imported} (h : (processAnalyses setup analyses).exec s = (.ok reports, t)) :
    (reports.map Imported.analysis).Sublist (analyses.map Analysis.id) := by
  unfold processAnalyses at h
  obtain ⟨made, s', hmade, hreports⟩ := exec_bind_eq_ok.mp h
  cases hreports
  have hall := exec_mapM_forall₂ hmade
  clear h hmade
  induction hall with
  | nil => exact List.Sublist.refl _
  | @cons a o analyses made hfirst _ ih =>
    obtain ⟨u, u', hstep⟩ := hfirst
    cases o with
    | none => exact ih.cons a.id
    | some x =>
      show (x.analysis :: _).Sublist (a.id :: _)
      rw [analysis_of_processed hstep]
      exact ih.cons_cons a.id

/-- A report counts as loaded once its application was copied, also if the store refuses it. -/
theorem install_loaded (setup : ImportSetup) (i : Imported) (s : Importer) :
    ((install setup i).exec s).2.loaded = s.loaded ++ [i] ∨
      ((install setup i).exec s).2.loaded = s.loaded ∧
        ∃ e, ((install setup i).exec s).1 = .error e := by
  have hcopy := keeps_cloneAt setup i.application.origin i.application.branch i.application.commit
    i.application.localPath i.credentials s
  unfold install
  dsimp only
  rw [exec_bind]
  rcases hrun : (cloneAt setup i.application.origin i.application.branch i.application.commit
    i.application.localPath i.credentials).exec s with ⟨o, t⟩
  rw [hrun] at hcopy
  cases o with
  | error e => exact .inr ⟨hcopy, e, rfl⟩
  | ok _ => exact .inl (congrArg (· ++ [i]) hcopy)

/-- Reports are loaded in their order, up to the first failure. -/
theorem forM_install_loaded (setup : ImportSetup) (reports : List Imported) (s : Importer) :
    ∃ done, done <+: reports ∧
      ((reports.forM (install setup)).exec s).2.loaded = s.loaded ++ done := by
  induction reports generalizing s with
  | nil => exact ⟨[], List.prefix_rfl, (List.append_nil _).symm⟩
  | cons i rest ih =>
    have hfirst := install_loaded setup i s
    show ∃ done, _ ∧ ((install setup i >>= fun _ => rest.forM (install setup)).exec s).2.loaded = _
    rw [exec_bind]
    rcases hrun : (install setup i).exec s with ⟨o, t⟩
    rw [hrun] at hfirst
    cases o with
    | error e =>
      rcases hfirst with hloaded | ⟨hloaded, -⟩
      · exact ⟨[i], ⟨rest, rfl⟩, hloaded⟩
      · exact ⟨[], List.nil_prefix, hloaded.trans (List.append_nil _).symm⟩
    | ok _ =>
      rcases hfirst with hloaded | ⟨-, e, he⟩
      · obtain ⟨done, hdone, hrest⟩ := ih t
        refine ⟨i :: done, List.cons_prefix_cons.mpr ⟨rfl, hdone⟩, ?_⟩
        dsimp only at hloaded ⊢
        rw [hrest, hloaded, List.append_assoc]
        rfl
      · cases he

/-- What the hub gives when it is asked for the analyses after a number. An answer that cannot be read
gives none. -/
def answerTo (setup : ImportSetup) (last : Int) (s : Importer) : List Analysis :=
  ((newAnalyses setup last).exec s).1.toOption.getD []

/-- An import loads reports of analyses of the answer, in their order. If it succeeds, the number that
it gives is that of the first analysis of the answer. -/
theorem importNew_exec (setup : ImportSetup) (last : Int) (s : Importer) :
    ∃ done : List Imported, ((importNew setup last).exec s).2.loaded = s.loaded ++ done ∧
      (done.map Imported.analysis).Sublist ((answerTo setup last s).map Analysis.id) ∧
      ∀ n, ((importNew setup last).exec s).1 = .ok n →
        n = ((answerTo setup last s).head?.map Analysis.id).getD last := by
  have hasked : Keeps Importer.loaded (newAnalyses setup last) :=
    (keeps_fetch setup _ _).bind fun _ => Keeps.ofOutcome _
  have hprocessed : ∀ analyses, Keeps Importer.loaded (processAnalyses setup analyses) :=
    fun analyses => (Keeps.mapM (keeps_processAnalysis setup) analyses).bind fun _ _ => rfl
  have hnone : ∀ t : Importer, t.loaded = s.loaded → t.loaded = s.loaded ++ [] := by
    intro t ht
    rw [List.append_nil, ht]
  have hs₁ := hasked s
  unfold answerTo
  rw [importNew_eq, exec_bind]
  rcases hanswer : (newAnalyses setup last).exec s with ⟨o, s₁⟩
  rw [hanswer] at hs₁
  cases o with
  | error e => exact ⟨[], hnone _ hs₁, List.nil_sublist _, fun n hn => by cases hn⟩
  | ok analyses =>
    have hs₂ := hprocessed analyses s₁
    dsimp only
    rw [exec_bind]
    rcases hreports : (processAnalyses setup analyses).exec s₁ with ⟨o, s₂⟩
    rw [hreports] at hs₂
    cases o with
    | error e => exact ⟨[], hnone _ (hs₂.trans hs₁), List.nil_sublist _, fun n hn => by cases hn⟩
    | ok reports =>
      -- whatever comes of loading, only the reports of the answer can be loaded
      obtain ⟨done, hdone, hloaded⟩ := forM_install_loaded setup reports s₂
      refine ⟨done, ?_, ?_, ?_⟩
      · dsimp only
        rw [exec_bind]
        rcases hrun : (reports.forM (install setup)).exec s₂ with ⟨o, t⟩
        rw [hrun, show s₂.loaded = s.loaded from hs₂.trans hs₁] at hloaded
        cases o <;> exact hloaded
      · exact (hdone.sublist.map _).trans (processAnalyses_sublist hreports)
      · intro n hn
        dsimp only at hn
        rw [exec_bind] at hn
        rcases hrun : (reports.forM (install setup)).exec s₂ with ⟨o, t⟩
        rw [hrun] at hn
        cases o with
        | error e => cases hn
        | ok _ =>
          cases hn
          rfl

/-! ## Imports one after the other -/

/-- One import: the number after which analyses are asked for, the analyses that the hub gives, the
numbers of those whose reports are loaded, and the number to go on from. -/
structure Round where
  since : Int
  answer : List Analysis
  loaded : List Int
  gave : Outcome Int

/-- The import after a number, from a state. -/
def roundOf (setup : ImportSetup) (last : Int) (s : Importer) : Round where
  since := last
  answer := answerTo setup last s
  loaded := (((importNew setup last).exec s).2.loaded.drop s.loaded.length).map Imported.analysis
  gave := ((importNew setup last).exec s).1

theorem roundOf_loaded (setup : ImportSetup) (last : Int) (s : Importer) :
    ((importNew setup last).exec s).2.loaded.map Imported.analysis =
      s.loaded.map Imported.analysis ++ (roundOf setup last s).loaded := by
  obtain ⟨done, hloaded, -⟩ := importNew_exec setup last s
  rw [roundOf, hloaded, List.drop_left, List.map_append]

theorem roundOf_sublist (setup : ImportSetup) (last : Int) (s : Importer) :
    (roundOf setup last s).loaded.Sublist ((roundOf setup last s).answer.map Analysis.id) := by
  obtain ⟨done, hloaded, hsub, -⟩ := importNew_exec setup last s
  rw [roundOf, hloaded, List.drop_left]
  exact hsub

namespace Round

/-- The hub gives analyses after the number that was asked for, and none of them twice. -/
structure Filtered (r : Round) : Prop where
  after : ∀ a ∈ r.answer, r.since < a.id
  distinct : (r.answer.map Analysis.id).Nodup

/-- The first analysis of the answer has the greatest number. -/
def FirstIsGreatest (r : Round) : Prop :=
  ∀ first ∈ r.answer.head?, ∀ a ∈ r.answer, a.id ≤ first.id

/-- The number to go on from is at least that of every analysis whose report was loaded. -/
def Covers (r : Round) : Prop :=
  ∀ n, r.gave = .ok n → ∀ i ∈ r.loaded, i ≤ n

/-- The number to go on from is that of the first analysis. -/
def GivesFirst (r : Round) : Prop :=
  ∀ n, r.gave = .ok n → n = (r.answer.head?.map Analysis.id).getD r.since

theorem givesFirst_roundOf (setup : ImportSetup) (last : Int) (s : Importer) :
    (roundOf setup last s).GivesFirst := by
  obtain ⟨-, -, -, hfirst⟩ := importNew_exec setup last s
  exact hfirst

/-- The number is at least that of every analysis of the answer if and only if the first is the
greatest. -/
theorem GivesFirst.le_iff {r : Round} (h : r.GivesFirst) {n : Int} (hn : r.gave = .ok n) :
    (∀ a ∈ r.answer, a.id ≤ n) ↔ r.FirstIsGreatest := by
  rw [h n hn, FirstIsGreatest]
  cases r.answer with
  | nil => simp
  | cons first rest => simp

theorem GivesFirst.since_le {r : Round} (h : r.GivesFirst) (hr : r.Filtered) {n : Int}
    (hn : r.gave = .ok n) : r.since ≤ n := by
  have hafter := hr.after
  rw [h n hn]
  cases hanswer : r.answer with
  | nil => simp
  | cons first rest =>
    have := hafter first (by simp [hanswer])
    simp only [List.head?_cons, Option.map_some, Option.getD_some]
    omega

end Round

/-- Imports one after the other, after a number and from a state. Each goes on from the number that
the one before gave, and a failure is the last. Between two imports there may be a pause. -/
inductive Polls (setup : ImportSetup) : Int → Importer → List Round → Importer → Prop
  | stop (last : Int) (s : Importer) : Polls setup last s [] s
  | failed {last : Int} {s : Importer} {e : Failure}
    (h : ((importNew setup last).exec s).1 = .error e) :
    Polls setup last s [roundOf setup last s] ((importNew setup last).exec s).2
  | next {last n : Int} {s u : Importer} {rest : List Round}
    (h : ((importNew setup last).exec s).1 = .ok n) (slept : List Json)
    (hrest : Polls setup n { ((importNew setup last).exec s).2 with slept } rest u) :
    Polls setup last s (roundOf setup last s :: rest) u

theorem pause_exec (setup : ImportSetup) (interval : Json) (s : Importer) :
    (pause setup interval).exec s =
      (setup.sleep s.slept interval, { s with slept := s.slept ++ [interval] }) := rfl

/-- Polling goes on with imports until one of them or a pause fails. -/
theorem polls_of_poll (setup : ImportSetup) (interval : Json) (fuel : Nat) (last : Int)
    (s : Importer) :
    ∃ rounds, Polls setup last s rounds ((poll setup interval fuel last).exec s).2 := by
  induction fuel generalizing last s with
  | zero => exact ⟨[], .stop last s⟩
  | succ fuel ih =>
    rw [poll, exec_bind]
    rcases hrun : (importNew setup last).exec s with ⟨o, t⟩
    have hstate : ((importNew setup last).exec s).2 = t := by rw [hrun]
    cases o with
    | error e =>
      refine ⟨[roundOf setup last s], ?_⟩
      show Polls setup last s _ t
      rw [← hstate]
      exact .failed (by rw [hrun])
    | ok n =>
      have hok : ((importNew setup last).exec s).1 = .ok n := by rw [hrun]
      dsimp only
      split
      · next hsame =>
        -- nothing was new: a pause, and unless it fails the same question again
        subst hsame
        rw [exec_bind, pause_exec]
        cases setup.sleep t.slept interval with
        | error e =>
          refine ⟨[roundOf setup n s], .next hok (t.slept ++ [interval]) ?_⟩
          rw [hstate]
          exact .stop n _
        | ok _ =>
          obtain ⟨rounds, hrounds⟩ := ih n { t with slept := t.slept ++ [interval] }
          refine ⟨roundOf setup n s :: rounds, .next hok (t.slept ++ [interval]) ?_⟩
          rw [hstate]
          exact hrounds
      · obtain ⟨rounds, hrounds⟩ := ih n t
        refine ⟨roundOf setup last s :: rounds, .next hok t.slept ?_⟩
        rw [hstate]
        exact hrounds

namespace Polls

variable {setup : ImportSetup} {last : Int} {s u : Importer} {rounds : List Round}

theorem exists_roundOf (h : Polls setup last s rounds u) {r : Round} (hr : r ∈ rounds) :
    ∃ last s, r = roundOf setup last s := by
  induction h with
  | stop => cases hr
  | failed => exact ⟨_, _, List.mem_singleton.mp hr⟩
  | next _ _ _ ih =>
    rcases List.mem_cons.mp hr with rfl | hr
    · exact ⟨_, _, rfl⟩
    · exact ih hr

/-- What is loaded in the end are the analyses of each import, in order. -/
theorem loaded_eq (h : Polls setup last s rounds u) :
    u.loaded.map Imported.analysis =
      s.loaded.map Imported.analysis ++ rounds.flatMap Round.loaded := by
  induction h with
  | stop => simp
  | @failed last s =>
    rw [roundOf_loaded]
    simp
  | @next last n s u rest _ slept _ ih =>
    rw [ih, List.flatMap_cons, ← List.append_assoc, ← roundOf_loaded]

theorem head_since {r : Round} {rest : List Round} (h : Polls setup last s (r :: rest) u) :
    r.since = last := by
  cases h with
  | failed => rfl
  | next => rfl

/-- No later import asks for less. -/
theorem since_le (h : Polls setup last s rounds u) (hfiltered : ∀ r ∈ rounds, r.Filtered) :
    ∀ r ∈ rounds, last ≤ r.since := by
  induction h with
  | stop => simp
  | failed =>
    intro r hr
    rw [List.mem_singleton.mp hr]
    exact le_rfl
  | @next last n s u rest hok slept _ ih =>
    have hstep : last ≤ n :=
      (Round.givesFirst_roundOf setup last s).since_le (hfiltered _ List.mem_cons_self) hok
    intro r hr
    rcases List.mem_cons.mp hr with rfl | hr
    · exact le_rfl
    · exact hstep.trans (ih (fun r hr => hfiltered r (List.mem_cons_of_mem _ hr)) r hr)

theorem since_lt_loaded (h : Polls setup last s rounds u) {r : Round} (hr : r ∈ rounds)
    (hfiltered : r.Filtered) : r.loaded.Nodup ∧ ∀ i ∈ r.loaded, r.since < i := by
  obtain ⟨last', s', rfl⟩ := h.exists_roundOf hr
  have hsub := roundOf_sublist setup last' s'
  refine ⟨hsub.nodup hfiltered.distinct, fun i hi => ?_⟩
  obtain ⟨a, ha, rfl⟩ := List.mem_map.mp (hsub.subset hi)
  exact hfiltered.after a ha

/-- Nothing is loaded twice if each import but the last covers what it has loaded. -/
theorem nodup_of_covers (h : Polls setup last s rounds u) (hfiltered : ∀ r ∈ rounds, r.Filtered)
    (hcovers : ∀ r ∈ rounds.dropLast, r.Covers) : (rounds.flatMap Round.loaded).Nodup := by
  induction h with
  | stop => exact List.nodup_nil
  | @failed last s e hfail =>
    rw [List.flatMap_singleton]
    exact ((Polls.failed hfail).since_lt_loaded List.mem_cons_self
      (hfiltered _ List.mem_cons_self)).1
  | @next last n s u rest hok slept hrest ih =>
    have hlater : ∀ r ∈ rest, r.Filtered := fun r hr => hfiltered r (List.mem_cons_of_mem _ hr)
    have hfirst := (Polls.next hok slept hrest).since_lt_loaded List.mem_cons_self
      (hfiltered _ List.mem_cons_self)
    cases rest with
    | nil => simpa using hfirst.1
    | cons r' rest =>
      rw [List.dropLast_cons_cons] at hcovers
      rw [List.flatMap_cons, List.nodup_append]
      refine ⟨hfirst.1, ih hlater fun r hr => hcovers r (List.mem_cons_of_mem _ hr), ?_⟩
      -- what is loaded later is above the number that this import gave, and what it loaded is not
      intro i hi j hj hij
      obtain ⟨r, hr, hjr⟩ := List.mem_flatMap.mp hj
      have hle : i ≤ n := hcovers _ List.mem_cons_self n hok i hi
      have hsince : n ≤ r.since := hrest.since_le hlater r hr
      have hlt : r.since < j := (hrest.since_lt_loaded hr (hlater r hr)).2 j hjr
      omega

end Polls

/-- What was loaded once and is asked for again is loaded again: the hub keeps its analyses and their
issues. -/
def Steady (rounds : List Round) : Prop :=
  rounds.IsChain fun r r' => ∀ i ∈ r.loaded, r'.since < i → i ∈ r'.loaded

/-- If the hub keeps what it has, an import that does not cover what it has loaded makes the next one
load it again. -/
theorem Polls.covers_of_nodup {setup : ImportSetup} {last : Int} {s u : Importer}
    {rounds : List Round} (h : Polls setup last s rounds u) (hsteady : Steady rounds)
    (hnodup : (rounds.flatMap Round.loaded).Nodup) : ∀ r ∈ rounds.dropLast, r.Covers := by
  induction h with
  | stop => simp
  | failed => simp
  | @next last n s u rest hok slept hrest ih =>
    cases rest with
    | nil => simp
    | cons r' rest =>
      unfold Steady at hsteady
      rw [List.isChain_cons_cons] at hsteady
      rw [List.flatMap_cons, List.nodup_append] at hnodup
      intro r hr
      rw [List.dropLast_cons_cons] at hr
      rcases List.mem_cons.mp hr with rfl | hr
      · intro m hm i hi
        obtain rfl : n = m := by
          have hsame : (.ok n : Outcome Int) = .ok m := hok.symm.trans hm
          cases hsame
          rfl
        by_contra hlt
        have hagain : i ∈ r'.loaded := hsteady.1 i hi (by rw [hrest.head_since]; omega)
        exact hnodup.2.2 i hi i (List.mem_flatMap.mpr ⟨r', List.mem_cons_self, hagain⟩) rfl
      · exact ih hsteady.2 hnodup.2.1 r hr

theorem Round.FirstIsGreatest.covers {setup : ImportSetup} {last : Int} {s : Importer}
    (h : (roundOf setup last s).FirstIsGreatest) : (roundOf setup last s).Covers := by
  intro n hn i hi
  obtain ⟨a, ha, rfl⟩ := List.mem_map.mp ((roundOf_sublist setup last s).subset hi)
  exact ((Round.givesFirst_roundOf setup last s).le_iff hn).mpr h a ha

/-- **When nothing is loaded twice.** Polling is a sequence of imports, each after the number that the
one before gave. If the hub gives analyses after the number it is asked for, none of them twice in one
answer, but in any order:

* what is loaded in the end are the analyses that each import has loaded, in order;
* the number that an import gives is at least that of every analysis it has processed if and only if
  the first analysis of the answer is the greatest;
* if that is so for all imports but the last, no analysis is loaded twice;
* if the hub keeps its analyses, no analysis is loaded twice if and only if each import but the last
  gives a number that is at least that of every analysis it has loaded. -/
theorem loaded_once_iff (setup : ImportSetup) (last : Int) (s : Importer) :
    (∀ interval fuel, ∃ rounds,
      Polls setup last s rounds ((poll setup interval fuel last).exec s).2) ∧
    ∀ {rounds : List Round} {u : Importer}, Polls setup last s rounds u →
      (∀ r ∈ rounds, r.Filtered) →
      u.loaded.map Imported.analysis =
        s.loaded.map Imported.analysis ++ rounds.flatMap Round.loaded ∧
      (∀ r ∈ rounds, ∀ n, r.gave = .ok n →
        ((∀ a ∈ r.answer, a.id ≤ n) ↔ r.FirstIsGreatest)) ∧
      ((∀ r ∈ rounds.dropLast, r.FirstIsGreatest) → (rounds.flatMap Round.loaded).Nodup) ∧
      (Steady rounds →
        ((rounds.flatMap Round.loaded).Nodup ↔ ∀ r ∈ rounds.dropLast, r.Covers)) := by
  refine ⟨fun interval fuel => polls_of_poll setup interval fuel last s, ?_⟩
  intro rounds u hpolls hfiltered
  refine ⟨hpolls.loaded_eq, ?_, ?_, ?_⟩
  · intro r hr n hn
    obtain ⟨last', s', rfl⟩ := hpolls.exists_roundOf hr
    exact (Round.givesFirst_roundOf setup last' s').le_iff hn
  · intro hgreatest
    refine hpolls.nodup_of_covers hfiltered fun r hr => ?_
    obtain ⟨last', s', rfl⟩ := hpolls.exists_roundOf (List.mem_of_mem_dropLast hr)
    exact (hgreatest _ hr).covers
  · intro hsteady
    exact ⟨hpolls.covers_of_nodup hsteady, hpolls.nodup_of_covers hfiltered⟩

/-! ## An example -/

/-- An analysis as the hub gives it. -/
def analysisData (id : Int) : Json :=
  .obj [("id", .int id), ("application", .obj [("id", .int 1)]), ("effort", .int 1)]

/-- What a hub with two analyses, 5 and 6, answers; it lists them in the given order. -/
def listedAnswers (ids : List Int) : List (String × Json) :=
  ([0, 5, 6].map fun n => ("HUB/analyses?filter=id>" ++ Decimal.int n,
    Json.arr ((ids.filter (n < ·)).map analysisData))) ++
  [("HUB/applications/1", .obj [("id", .int 1), ("name", .str "app"),
     ("repository", .obj [("url", .str "https://h/r.git")])]),
   ("HUB/analyses/5/issues?offset=0", .arr [plainIssue.encode]),
   ("HUB/analyses/5/issues?offset=1", .arr []),
   ("HUB/analyses/6/issues?offset=0", .arr [plainIssue.encode]),
   ("HUB/analyses/6/issues?offset=1", .arr [])]

/-- A hub that lists its analyses in the given order. -/
def listingHub (ids : List Int) : ImportSetup where
  hub :=
    { server := ⟨fun _ r => .ok (((listedAnswers ids).lookup r.key).elim { status := 404 }
        fun body => { status := 200, body })⟩
      address := "HUB" }
  directory := "/apps"
  pageLimit := 3

theorem loaded_once_in_descending_order :
    let setup := listingHub [6, 5]
    ∃ rounds u, Polls setup 0 {} rounds u ∧ rounds.map Round.since = [0, 6] ∧
      (∀ r ∈ rounds, r.Filtered) ∧ (∀ r ∈ rounds.dropLast, r.FirstIsGreatest) ∧
      (rounds.flatMap Round.loaded).Nodup ∧ u.loaded.map Imported.analysis = [6, 5] := by
  intro setup
  let second := roundOf setup 6 { ((importNew setup 0).exec {}).2 with slept := [] }
  have hfirst : (roundOf setup 0 {}).gave = .ok 6 := by decide +kernel
  have hsecond : second.gave = .ok 6 := by decide +kernel
  have hgiven : ∀ r ∈ [roundOf setup 0 {}, second],
      (∀ a ∈ r.answer, r.since < a.id) ∧ (r.answer.map Analysis.id).Nodup := by decide +kernel
  have hgreatest : ∀ a ∈ (roundOf setup 0 {}).answer, a.id ≤ 6 := by decide +kernel
  have hloaded : [roundOf setup 0 {}, second].flatMap Round.loaded = [6, 5] := by decide +kernel
  -- from here on the hub is any hub with these two answers
  clear_value setup
  have hpolls : Polls setup 0 {} [roundOf setup 0 {}, second] _ :=
    .next hfirst [] (.next hsecond [] (.stop 6 _))
  have hfiltered : ∀ r ∈ [roundOf setup 0 {}, second], r.Filtered :=
    fun r hr => ⟨(hgiven r hr).1, (hgiven r hr).2⟩
  have hfirsts : ∀ r ∈ [roundOf setup 0 {}, second].dropLast, r.FirstIsGreatest := by
    intro r hr
    rw [List.mem_singleton.mp hr]
    exact ((Round.givesFirst_roundOf setup 0 {}).le_iff hfirst).mp hgreatest
  obtain ⟨hall, -, hnodup, -⟩ := (loaded_once_iff setup 0 {}).2 hpolls hfiltered
  exact ⟨_, _, hpolls, rfl, hfiltered, hfirsts, hnodup hfirsts, hall.trans hloaded⟩

/-- Of two analyses that are listed in ascending order the first import gives the number of the
smaller one, and the other is loaded a second time. -/
theorem loaded_twice_in_ascending_order :
    let setup := listingHub [5, 6]
    (answerTo setup 0 {}).map Analysis.id = [5, 6] ∧ ((importNew setup 0).exec {}).1 = .ok 5 ∧
    ((poll setup (.int 60) 3 0).exec {}).1 = .ok () ∧
    ((poll setup (.int 60) 3 0).exec {}).2.loaded.map Imported.analysis = [5, 6, 6] := by
  decide +kernel

end Remedy.Hub
