import Remedy.Proofs.Hub.Pages
import Remedy.Proofs.Json.Fields
import Remedy.Proofs.Json.Order
import Remedy.Proofs.Report.Loading

/-!
# What becomes of the issues of an analysis

The issues of an analysis are put together by their rule sets: the data of a report has an entry for
each rule set, under its name. A report is read from one rule set or from a list of rule sets, so the
data is taken for a single rule set. The names of the rule sets are then no names of its parts, and
everything under them is passed over: the report has one rule set without violations. If a rule set
happens to be named like a part, what stands there is no such part, and the report cannot be read.

Main results:

* `reportData_exec`: the data of a report is made of the issues that the hub gives, in their order.
* `ofJson_issues`: the report that is read from the data of issues.
* `imported_without_incidents`: no report that is imported holds an incident.
* `imported_report_lacks_incident`: an incident that is lost.
-/

namespace Remedy.Hub

open Remedy.Action Decode

/-! ## What an import should give -/

/-- The incident of a report that stands for an incident of a hub. -/
def HubIncident.reported (application : String) (i : HubIncident) : Incident where
  uri := (Text.dropFront? i.file (sourceRoot application)).getD i.file
  message := i.message
  snippet := i.snippet
  line := i.line
  vars := i.vars

/-- The report has the incidents of the issues, each under its rule set and rule, and no others. -/
structure Holds (application : String) (issues : List Issue) (report : Report) : Prop where
  all : ∀ i ∈ issues, ∃ r ∈ report.rulesets, r.name = some i.ruleset ∧
    ∃ v, r.violations.lookup i.rule = some v ∧
      v.incidents = i.incidents.map (HubIncident.reported application)
  only : ∀ r ∈ report.rulesets, ∀ v ∈ r.violations, ∀ x ∈ v.2.incidents,
    ∃ i ∈ issues, r.name = some i.ruleset ∧ v.1 = i.rule ∧
      ∃ y ∈ i.incidents, x = y.reported application

/-! ## Pages -/

section Pages

variable {σ α β : Type} {page : Nat → Action σ Json}

theorem exec_foldlM_map {take : α → Json → Action σ α} {take' : β → Json → Action σ β} {f : α → β}
    (h : ∀ got v s, (take' (f got) v).exec s = (f <$> take got v).exec s) (items : List Json)
    (got : α) (s : σ) :
    (items.foldlM take' (f got)).exec s = (f <$> items.foldlM take got).exec s := by
  induction items generalizing got s with
  | nil => rfl
  | cons v items ih =>
    rw [List.foldlM_cons, List.foldlM_cons, exec_map, exec_bind, exec_bind, h, exec_map]
    rcases (take got v).exec s with ⟨o, s'⟩
    cases o with
    | error e => rfl
    | ok next =>
      show (items.foldlM take' (f next)).exec s' = _
      rw [ih, exec_map]

/-- What is made of the items of all pages can be made in two steps, if that is so for one item. -/
theorem pagesFrom_map {take : α → Json → Action σ α} {take' : β → Json → Action σ β} {f : α → β}
    (h : ∀ got v s, (take' (f got) v).exec s = (f <$> take got v).exec s) (fuel : Nat)
    (previous : Option Nat) (offset : Nat) (got : α) (s : σ) :
    (pagesFrom page take' fuel previous offset (f got)).exec s =
      (f <$> pagesFrom page take fuel previous offset got).exec s := by
  induction fuel generalizing previous offset got s with
  | zero => rfl
  | succ fuel ih =>
    by_cases hsame : previous = some offset
    · subst hsame
      rw [pagesFrom_of_eq, pagesFrom_of_eq]
      rfl
    rw [pagesFrom_succ _ hsame, pagesFrom_succ _ hsame, exec_map, exec_bind, exec_bind]
    rcases (page offset).exec s with ⟨o, s'⟩
    cases o with
    | error e => rfl
    | ok v =>
      dsimp only
      rw [exec_bind, exec_bind, exec_ofOutcome]
      cases v.each with
      | error e => rfl
      | ok items =>
        dsimp only
        rw [exec_bind, exec_bind, exec_foldlM_map h, exec_map]
        rcases (items.foldlM take got).exec s' with ⟨o, s''⟩
        cases o with
        | error e => rfl
        | ok next =>
          show Action.exec (if items.isEmpty = true then _ else _) s'' = _
          by_cases hempty : items.isEmpty = true
          · simp only [hempty, if_true]
            rfl
          · simp only [hempty, Bool.false_eq_true, if_false, Except.map]
            rw [ih, exec_map]
            rfl

end Pages

/-- The issues of an analysis, as the hub gives them page by page. -/
def fetchIssues (setup : ImportSetup) (analysis : Int) : Importing (List Issue) :=
  paginate
    (fun offset => fetch setup ("/analyses/" ++ Decimal.int analysis ++ "/issues")
      (some ("offset", Decimal.natural offset)))
    (fun got v => do return got ++ [← Action.ofOutcome (readObject Issue.decode v)])
    setup.pageLimit []

/-- The data of the report that issues make. -/
def dataOf (application : String) (issues : List Issue) : Fields :=
  issues.foldl (addIssue application) []

/-- Issues go into the data of a report as they come. -/
theorem reportData_exec (setup : ImportSetup) (application : String) (analysis : Int)
    (s : Importer) :
    (reportData setup application analysis).exec s =
      (((fetchIssues setup analysis).exec s).1.map (dataOf application),
        ((fetchIssues setup analysis).exec s).2) := by
  have hstep : ∀ (got : List Issue) (v : Json) (s : Importer),
      ((Action.ofOutcome (readObject Issue.decode v) >>= fun i =>
          pure (addIssue application (dataOf application got) i) : Importing Fields)).exec s =
        (dataOf application <$> (Action.ofOutcome (readObject Issue.decode v) >>= fun i =>
          pure (got ++ [i]) : Importing (List Issue))).exec s := by
    intro got v s
    rw [exec_map, exec_bind, exec_bind, exec_ofOutcome]
    cases readObject Issue.decode v with
    | error e => rfl
    | ok i => simp [dataOf, Except.map]
  rw [← exec_map]
  exact pagesFrom_map (f := dataOf application) hstep setup.pageLimit none 0 [] s

/-! ## The data of a report -/

/-- What the data of a report has for a rule set. -/
def entryOf (description : String) (violations : Fields) : Json :=
  .obj [("description", .str description), ("violations", .obj violations)]

/-- Every entry stands for a rule set. -/
def Grouped (data : Fields) : Prop :=
  ∀ e ∈ data, ∃ description violations, e.2 = entryOf description violations

theorem addIssue_eq {data : Fields} (h : Grouped data) (application : String) (i : Issue) :
    ∃ description violations,
      addIssue application data i = data.set i.ruleset (entryOf description violations) := by
  have hentry : ∃ description violations,
      (data.get? i.ruleset).getD (entryOf i.description []) = entryOf description violations := by
    cases hget : data.get? i.ruleset with
    | none => exact ⟨i.description, [], rfl⟩
    | some v => exact h _ (Json.mem_of_lookup hget)
  obtain ⟨description, violations, hentry⟩ := hentry
  refine ⟨description, violations.set i.rule (violationData application i), ?_⟩
  unfold addIssue
  dsimp only
  rw [show Json.obj [("description", .str i.description), ("violations", .obj [])] =
    entryOf i.description [] from rfl, hentry]
  rfl

theorem Grouped.addIssue {data : Fields} (h : Grouped data) (application : String) (i : Issue) :
    Grouped (addIssue application data i) := by
  obtain ⟨description, violations, heq⟩ := addIssue_eq h application i
  intro e he
  rw [heq] at he
  rcases Fields.mem_of_mem_set he with hnew | hold
  · exact ⟨description, violations, hnew⟩
  · exact h e hold

/-- The data of issues has an entry for each of their rule sets, and for nothing else. -/
theorem dataOf_spec (application : String) (issues : List Issue) :
    Grouped (dataOf application issues) ∧
      ∀ k, k ∈ (dataOf application issues).keys ↔ ∃ i ∈ issues, i.ruleset = k := by
  induction issues using List.reverseRecOn with
  | nil =>
    refine ⟨?_, fun k => by simp [dataOf, Fields.keys]⟩
    intro e he
    cases he
  | append_singleton issues i ih =>
    have hdata : dataOf application (issues ++ [i]) =
        addIssue application (dataOf application issues) i := by
      simp [dataOf]
    obtain ⟨description, violations, heq⟩ := addIssue_eq ih.1 application i
    refine ⟨?_, fun k => ?_⟩
    · rw [hdata]
      exact ih.1.addIssue application i
    · rw [hdata, heq, Fields.mem_keys_set, ih.2]
      simp only [List.mem_append, List.mem_singleton, or_and_right, exists_or, exists_eq_left]
      exact or_congr_right eq_comm

/-! ## Reading the data as a rule set -/

/-- The names of the parts of a rule set. -/
def rulesetParts : List String :=
  ["name", "description", "tags", "violations", "errors", "unmatched", "skipped"]

/-- A part that stands for a rule set cannot be read as anything else. -/
theorem withDefault_grouped {α : Type} {data : Fields} (h : Grouped data) (key : String)
    {item : Json → Outcome α} (hitem : ∀ d vs, item (entryOf d vs) = invalid) (default : α) :
    withDefault data [key] item default = if key ∈ data.keys then invalid else .ok default := by
  unfold withDefault Fields.firstOf?
  rw [List.findSome?_cons]
  by_cases hkey : key ∈ data.keys
  · obtain ⟨v, hget⟩ := Option.ne_none_iff_exists'.mp (mt Fields.get?_eq_none_iff.mp (not_not.mpr hkey))
    obtain ⟨d, vs, rfl⟩ := h _ (Json.mem_of_lookup hget)
    rw [hget, if_pos hkey]
    exact hitem d vs
  · rw [Fields.get?_eq_none_iff.mpr hkey, if_neg hkey]
    rfl

theorem bind_part {α β : Type} {p : Prop} [Decidable p] {x : α} {f : α → Outcome β} :
    ((if p then invalid else .ok x) >>= f) = if p then invalid else f x := by
  split <;> rfl

/-- The data of a report, read as one rule set: a name that is given, and nothing else. -/
theorem decode_grouped {data : Fields} (h : Grouped data) (hname : "name" ∉ data.keys)
    (name : String) :
    RuleSet.decode (.obj (data.set "name" (.str name))) =
      if ∃ k ∈ rulesetParts, k ∈ data.keys then invalid else .ok { name := some name } := by
  have htext : ∀ d vs, text (entryOf d vs) = invalid := fun _ _ => rfl
  have htexts : ∀ d vs, nullable (listOf text) (entryOf d vs) = invalid := fun _ _ => rfl
  have herrors : ∀ d vs, nullable (mapOf text) (entryOf d vs) = invalid := fun _ _ => rfl
  have hviolations : ∀ d vs, mapOf Violation.decode (entryOf d vs) = invalid := fun _ _ => rfl
  have hgiven : withDefault (data.set "name" (.str name)) ["name"] (nullable text) none =
      .ok (some name) := withDefault_of_set data "name" (.str name) (nullable text) none
  unfold RuleSet.decode
  -- the parts are read in their order, and the first that the data has an entry for ends the reading
  show (withDefault (data.set "name" (.str name)) ["name"] (nullable text) none >>= _) = _
  simp only [hgiven, withDefault_set data (show "description" ≠ "name" by decide),
    withDefault_set data (show "tags" ≠ "name" by decide),
    withDefault_set data (show "violations" ≠ "name" by decide),
    withDefault_set data (show "errors" ≠ "name" by decide),
    withDefault_set data (show "unmatched" ≠ "name" by decide),
    withDefault_set data (show "skipped" ≠ "name" by decide),
    withDefault_grouped h _ htext, withDefault_grouped h _ htexts, withDefault_grouped h _ herrors,
    withDefault_grouped h _ hviolations]
  show ((if "description" ∈ data.keys then invalid else .ok "") >>= _) = _
  simp only [bind_part]
  by_cases hpart : ∃ k ∈ rulesetParts, k ∈ data.keys
  · rw [if_pos hpart]
    split_ifs with hdescription htags hviolations herrors hunmatched hskipped
    case neg =>
      exfalso
      obtain ⟨k, hk, hin⟩ := hpart
      simp only [rulesetParts, List.mem_cons, List.not_mem_nil, or_false] at hk
      rcases hk with rfl | rfl | rfl | rfl | rfl | rfl | rfl <;> contradiction
    all_goals rfl
  · have hnone : ∀ k ∈ rulesetParts, k ∉ data.keys := fun k hk hin => hpart ⟨k, hk, hin⟩
    rw [if_neg hpart, if_neg (hnone "description" (by decide)), if_neg (hnone "tags" (by decide)),
      if_neg (hnone "violations" (by decide)), if_neg (hnone "errors" (by decide)),
      if_neg (hnone "unmatched" (by decide)), if_neg (hnone "skipped" (by decide))]
    rfl

/-- The report that is read from the data of issues. -/
theorem ofJson_issues (id application : String) (issues : List Issue) :
    Report.ofJson id (.obj (dataOf application issues)) =
      if ∃ i ∈ issues, i.ruleset ∈ rulesetParts then .error (.invalidData none)
      else .ok ⟨id, [{ name := some (Report.unnamed 0) }]⟩ := by
  obtain ⟨hgrouped, hkeys⟩ := dataOf_spec application issues
  have hparts : (∃ i ∈ issues, i.ruleset ∈ rulesetParts) ↔
      ∃ k ∈ rulesetParts, k ∈ (dataOf application issues).keys := by
    simp only [hkeys]
    constructor
    · rintro ⟨i, hi, hpart⟩
      exact ⟨i.ruleset, hpart, i, hi, rfl⟩
    · rintro ⟨k, hpart, i, hi, rfl⟩
      exact ⟨i, hi, hpart⟩
  unfold Report.ofJson
  simp only [Report.addAll, Report.nameData]
  by_cases hname : "name" ∈ (dataOf application issues).keys
  · -- a rule set named `name` is taken for the name
    have hsome : ∃ i ∈ issues, i.ruleset ∈ rulesetParts :=
      hparts.mpr ⟨"name", by decide, hname⟩
    rw [if_pos (Fields.has_iff.mpr hname), if_pos hsome]
    have hdecode : RuleSet.decode (.obj (dataOf application issues)) = invalid := by
      unfold RuleSet.decode
      have htext : ∀ d vs, nullable text (entryOf d vs) = invalid := fun _ _ => rfl
      have hread := withDefault_grouped hgrouped "name" htext none
      rw [if_pos hname] at hread
      show (withDefault (dataOf application issues) ["name"] (nullable text) none >>= _) = _
      rw [hread]
      rfl
    show (RuleSet.decode (.obj (dataOf application issues)) >>= _) >>= _ = _
    rw [hdecode]
    rfl
  · have hhas : ¬ (dataOf application issues).has "name" = true := by
      rw [Fields.has_iff]
      exact hname
    rw [if_neg hhas]
    show (RuleSet.decode (.obj ((dataOf application issues).set "name" (.str (Report.unnamed 0)))) >>=
      _) >>= _ = _
    rw [decode_grouped hgrouped hname]
    simp only [hparts]
    split_ifs <;> rfl

/-! ## Imports -/

/-- What is asked of the hub before the issues: the application, and the identity to use for it. -/
def applicationOf (setup : ImportSetup) (a : Analysis) :
    Importing (HubApplication × Option Identity) := do
  let v ← fetch setup ("/applications/" ++ Decimal.int a.application) none
  let (_, identities) ← Action.ofOutcome (readObject readApplication v)
  let credentials ← credentialsOf setup identities
  let application ← Action.ofOutcome
    (HubApplication.ofFields setup.directory ((v.fields?).getD []))
  return (application, credentials)

/-- What is made of the data of a report. -/
def importedFrom (a : Analysis) (application : HubApplication) (credentials : Option Identity)
    (data : Fields) : Outcome (Option Imported) :=
  if data.isEmpty then .ok none
  else (Report.ofJson (Decimal.int a.id) (.obj data)).map fun report =>
    some { application := { application with commit := Json.ofText? a.commit }, credentials
           analysis := a.id, report }

theorem processAnalysis_eq (setup : ImportSetup) (a : Analysis) :
    processAnalysis setup a = (do
      let (application, credentials) ← applicationOf setup a
      let data ← reportData setup application.name a.id
      Action.ofOutcome (importedFrom a application credentials data)) := by
  have hlast : ∀ application credentials data, (if data.isEmpty then pure none else do
      let report ← Action.ofOutcome (Report.ofJson (Decimal.int a.id) (.obj data))
      pure (some { application := { application with commit := Json.ofText? a.commit }, credentials
                   analysis := a.id, report }) : Importing (Option Imported)) =
      Action.ofOutcome (importedFrom a application credentials data) := by
    intro application credentials data
    unfold importedFrom
    split
    · rfl
    · cases Report.ofJson (Decimal.int a.id) (.obj data) <;> rfl
  simp only [processAnalysis, applicationOf, bind_assoc, pure_bind, ← hlast]

theorem dataOf_isEmpty {application : String} {issues : List Issue} :
    (dataOf application issues).isEmpty = true ↔ issues = [] := by
  constructor
  · intro h
    cases issues with
    | nil => rfl
    | cons i rest =>
      have hkey := ((dataOf_spec application (i :: rest)).2 i.ruleset).mpr
        ⟨i, List.mem_cons_self, rfl⟩
      rw [List.isEmpty_iff.mp h] at hkey
      cases hkey
  · rintro rfl
    rfl

theorem processAnalysis_exec {setup : ImportSetup} {a : Analysis} {s s₁ s₂ : Importer}
    {application : HubApplication} {credentials : Option Identity} {issues : List Issue}
    (happlication : (applicationOf setup a).exec s = (.ok (application, credentials), s₁))
    (hissues : (fetchIssues setup a.id).exec s₁ = (.ok issues, s₂)) :
    (processAnalysis setup a).exec s =
      (importedFrom a application credentials (dataOf application.name issues), s₂) := by
  have hdata : (reportData setup application.name a.id).exec s₁ =
      (.ok (dataOf application.name issues), s₂) := by
    rw [reportData_exec, hissues]
    rfl
  rw [processAnalysis_eq, exec_bind_of_ok happlication]
  dsimp only
  rw [exec_bind_of_ok hdata, exec_ofOutcome]

/-- A report that is imported comes from issues, and has one rule set without violations. -/
theorem importedFrom_eq_some {a : Analysis} {application : HubApplication}
    {credentials : Option Identity} {issues : List Issue} {x : Imported}
    (h : importedFrom a application credentials (dataOf application.name issues) = .ok (some x)) :
    issues ≠ [] ∧ x.report = ⟨Decimal.int a.id, [{ name := some (Report.unnamed 0) }]⟩ := by
  unfold importedFrom at h
  by_cases hempty : (dataOf application.name issues).isEmpty = true
  · rw [if_pos hempty] at h
    cases h
  · rw [if_neg hempty, ofJson_issues] at h
    refine ⟨fun hnil => hempty (dataOf_isEmpty.mpr hnil), ?_⟩
    split_ifs at h
    · cases h
    · cases h
      rfl

/-- A report whose rule sets have no violations does not hold the incidents of issues. -/
theorem not_holds {application : String} {issues : List Issue} {report : Report}
    (hissues : issues ≠ []) (hempty : ∀ r ∈ report.rulesets, r.violations = []) :
    ¬ Holds application issues report := by
  intro h
  obtain ⟨i, hi⟩ := List.exists_mem_of_ne_nil issues hissues
  obtain ⟨r, hr, -, v, hv, -⟩ := h.all i hi
  rw [hempty r hr] at hv
  cases hv

/-- **No incident is imported.** Once the hub has given an application and the issues of an analysis,
there is no report if there are no issues. If an issue belongs to a rule set that is named like a
part of a rule set, the import fails. Otherwise there is a report, which has a single rule set with
a name of its own and without violations, so that it does not hold the incidents of the issues. All
reports of an import are like that. -/
theorem imported_without_incidents (setup : ImportSetup) :
    (∀ {a : Analysis} {s s₁ s₂ : Importer} {application : HubApplication}
      {credentials : Option Identity} {issues : List Issue},
      (applicationOf setup a).exec s = (.ok (application, credentials), s₁) →
      (fetchIssues setup a.id).exec s₁ = (.ok issues, s₂) →
      (issues = [] → (processAnalysis setup a).exec s = (.ok none, s₂)) ∧
      ((∃ i ∈ issues, i.ruleset ∈ rulesetParts) →
        (processAnalysis setup a).exec s = (.error (.invalidData none), s₂)) ∧
      (issues ≠ [] → (∀ i ∈ issues, i.ruleset ∉ rulesetParts) →
        ∃ x, (processAnalysis setup a).exec s = (.ok (some x), s₂) ∧
          x.report = ⟨Decimal.int a.id, [{ name := some (Report.unnamed 0) }]⟩ ∧
          ¬ Holds application.name issues x.report)) ∧
    ∀ {analyses : List Analysis} {s s' : Importer} {reports : List Imported},
      (processAnalyses setup analyses).exec s = (.ok reports, s') →
      ∀ x ∈ reports, x.report.rulesets = [{ name := some (Report.unnamed 0) }] := by
  constructor
  · intro a s s₁ s₂ application credentials issues happlication hissues
    rw [processAnalysis_exec happlication hissues]
    unfold importedFrom
    refine ⟨?_, ?_, ?_⟩
    · intro hnone
      rw [if_pos (dataOf_isEmpty.mpr hnone)]
    · rintro ⟨i, hi, hpart⟩
      have hsome : ¬ (dataOf application.name issues).isEmpty = true := by
        rw [dataOf_isEmpty]
        exact List.ne_nil_of_mem hi
      rw [if_neg hsome, ofJson_issues, if_pos ⟨i, hi, hpart⟩]
      rfl
    · intro hsome hnames
      rw [if_neg (mt dataOf_isEmpty.mp hsome), ofJson_issues,
        if_neg (by rintro ⟨i, hi, hpart⟩; exact hnames i hi hpart)]
      exact ⟨_, rfl, rfl, not_holds hsome (by simp)⟩
  · intro analyses s s' reports h x hx
    -- each report comes from one analysis, which has been asked for its issues
    rw [processAnalyses, bind_pure_comp, exec_map] at h
    rcases hall : (analyses.mapM (processAnalysis setup)).exec s with ⟨o, t⟩
    rw [hall] at h
    obtain ⟨made, hmade, hreports⟩ := Outcome.map_eq_ok.mp (Prod.mk.inj h).1
    dsimp only at hmade
    subst hmade
    rw [← hreports, List.mem_filterMap] at hx
    obtain ⟨y, hy, rfl⟩ := hx
    obtain ⟨a, -, u, u', hstep⟩ := exec_mapM_mem hall hy
    rw [processAnalysis_eq, exec_bind_eq_ok] at hstep
    obtain ⟨⟨application, credentials⟩, u₁, -, hstep⟩ := hstep
    obtain ⟨data, u₂, hdata, hstep⟩ := exec_bind_eq_ok.mp hstep
    rw [reportData_exec, Prod.mk.injEq, Outcome.map_eq_ok] at hdata
    obtain ⟨⟨issues, -, rfl⟩, -⟩ := hdata
    rw [exec_ofOutcome, Prod.mk.injEq] at hstep
    rw [(importedFrom_eq_some hstep.1).2]

/-! ## An example -/

/-- An incident that a hub tells about. -/
def plainIncident : HubIncident where
  id := 3
  notes := noteFields.map fun name => (name, .null)
  issue := 1
  file := "/addon/source/app/src/A.java"
  line := 4
  message := "found"
  snippet := "code"
  vars := [("kind", .str "call")]

/-- An issue with one incident. -/
def plainIssue : Issue where
  id := 9
  notes := noteFields.map fun name => (name, .null)
  analysis := 5
  ruleset := "rules"
  rule := "rule"
  name := "issue"
  description := "told"
  category := "mandatory"
  effort := 2
  incidents := [plainIncident]
  links := some []
  labels := []

/-- A hub with one application, whose analysis has one issue. -/
def plainHub : ImportSetup where
  hub := {
    address := "HUB"
    server := ⟨fun _ r => .ok <|
      if r.key = "HUB/applications/1" then
        { status := 200, body := .obj [("id", .int 1), ("name", .str "app"),
          ("repository", .obj [("url", .str "https://h/r.git")])] }
      else if r.key = "HUB/analyses/5/issues?offset=0" then
        { status := 200, body := .arr [plainIssue.encode] }
      else if r.key = "HUB/analyses/5/issues?offset=1" then { status := 200, body := .arr [] }
      else { status := 404 }⟩ }
  directory := "/apps"
  pageLimit := 3

/-- The analysis that the hub knows. -/
def plainAnalysis : Analysis := ⟨5, 1, some "c5"⟩

/-- The application that the hub knows. -/
def plainApplication : HubApplication where
  name := "app"
  origin := .str "https://h/r.git"
  localPath := "/apps/app"
  branch := .str ""
  commit := .str ""
  generated := { moment := ⟨1970, 1, 1, 0, 0, 0⟩, offset := some 0 }

theorem imported_without_incidents_from_plain_hub :
    let asked := (applicationOf plainHub plainAnalysis).exec {}
    asked.1 = .ok (plainApplication, none) ∧
    ((fetchIssues plainHub 5).exec asked.2).1 = .ok [plainIssue] ∧
    ∃ x, ((processAnalysis plainHub plainAnalysis).exec {}).1 = .ok (some x) ∧
      x.report = ⟨"5", [{ name := some (Report.unnamed 0) }]⟩ ∧
      ¬ Holds "app" [plainIssue] x.report := by
  have hasked : ((applicationOf plainHub plainAnalysis).exec {}).1 =
      .ok (plainApplication, none) := by decide +kernel
  have hissues : ((fetchIssues plainHub 5).exec
      ((applicationOf plainHub plainAnalysis).exec {}).2).1 = .ok [plainIssue] := by
    decide +kernel
  obtain ⟨x, hx, hreport, hlost⟩ := ((imported_without_incidents plainHub).1
    (exec_eq_of_fst hasked) (exec_eq_of_fst hissues)).2.2 (by simp) (by decide)
  exact ⟨hasked, hissues, x, by rw [hx], hreport, hlost⟩

/-- The incident that a hub tells about is not in the report that is made of it. -/
theorem imported_report_lacks_incident :
    ((fetchIssues plainHub 5).exec {}).1 = .ok [plainIssue] ∧ plainIssue.incidents = [plainIncident] ∧
    ∃ report, ((processAnalyses plainHub [plainAnalysis]).exec {}).1.map
        (List.map Imported.report) = .ok [report] ∧
      ¬ Holds "app" [plainIssue] report := by
  refine ⟨by decide +kernel, rfl, ⟨"5", [{ name := some (Report.unnamed 0) }]⟩, ?_, ?_⟩
  · decide +kernel
  · exact not_holds (by simp) (by simp)

end Remedy.Hub
