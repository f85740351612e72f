import Mathlib.Data.List.Nodup
import Remedy.Hub.Upload
import Remedy.Proofs.Action
import Remedy.Proofs.Json.Reordered

/-!
# The numbers of issues

A report is put into the form of a hub: each violation becomes an issue, and each incident of the
violation an incident of the issue, which names the issue by its number. Nothing is lost and every
incident names the issue that it is in. But issues are numbered within their rule sets, so the numbers
start again with each rule set, and they tell issues apart only if no two rule sets have violations.

Main results:

* `exists_of_incidentData`: what becomes of an incident.
* `madeOf_of_issueOf`: what becomes of a violation.
* `exists_groups`: the issues of a report, rule set by rule set.
* `issues_identified_iff`: when the numbers tell issues apart.
* `ids_start_again`: two rule sets whose issues have one number.
-/

namespace Remedy.Hub

open Decode

/-! ## Reading parts -/

theorem text_eq_ok {v : Json} {s : String} : text v = .ok s ↔ v = .str s := by
  cases v <;> simp [text, invalid]

theorem int_eq_ok {v : Json} {n : Int} : int v = .ok n ↔ v = .int n := by
  cases v <;> simp [int, invalid]

theorem object_eq_ok {v : Json} {fields : Fields} : object v = .ok fields ↔ v = .obj fields := by
  cases v <;> simp [object, invalid]

theorem get?_of_part {v w : Json} {key : String} (h : v.part key = .ok w) : v.get? key = some w := by
  cases v with
  | obj fields =>
    show Fields.get? fields key = some w
    rw [Json.part] at h
    cases hget : Fields.get? fields key with
    | none => rw [hget] at h; cases h
    | some w' => rw [hget] at h; cases h; rfl
  | _ => cases h

/-- A part is only looked for in an object. -/
theorem exists_of_partOr {v w default : Json} {key : String} (h : partOr v key default = .ok w) :
    v.text? = none ∧ (v.get? key).getD default = w := by
  cases v with
  | obj fields => exact ⟨rfl, Except.ok.inj h⟩
  | _ => cases h

/-- What is gone through are the items of a list, unless there are texts among it. -/
theorem items_of_each {v : Json} {items : List Json} (heach : v.each = .ok items)
    (hitems : ∀ w ∈ items, w.text? = none) : v.items?.getD [] = items := by
  cases v with
  | arr items' => exact Except.ok.inj heach
  | obj fields =>
    cases heach
    cases fields with
    | nil => rfl
    | cons e rest => cases hitems (.str e.1) List.mem_cons_self
  | str s =>
    cases heach
    cases hchars : s.toList with
    | nil => rfl
    | cons c cs =>
      rw [hchars] at hitems
      cases hitems (.str (String.singleton c)) List.mem_cons_self
  | _ => cases heach

/-! ## What becomes of an incident -/

/-- An incident of a hub says what an incident in the data of a report says. -/
structure StandsFor (i : HubIncident) (v : Json) : Prop where
  file : v.get? "uri" = some (.str i.file)
  line : (v.get? "lineNumber").getD (.int 0) = .int i.line
  message : v.get? "message" = some (.str i.message)
  snippet : (v.get? "codeSnip").getD (.str "") = .str i.snippet
  vars : (v.get? "variables").getD (.obj []) = .obj i.vars

/-- The notes of an entry that has none. -/
def noNotes : Fields := noteFields.map fun name => (name, .null)

theorem HubIncident.decode_encode {i : HubIncident} (h : i.notes = noNotes) :
    HubIncident.decode i.encode = .ok i := by
  cases i
  subst h
  rfl

/-- The parts of an incident that could be read. -/
theorem HubIncident.parts_of_decode {fields : Fields} {i : HubIncident}
    (h : HubIncident.decode (.obj fields) = .ok i) :
    (readNotes fields = .ok i.notes ∧ required fields ["issue"] int = .ok i.issue) ∧
      required fields ["file"] text = .ok i.file ∧ required fields ["line"] int = .ok i.line ∧
      required fields ["message"] text = .ok i.message ∧
      required fields ["codeSnip"] text = .ok i.snippet ∧
      required fields ["facts"] object = .ok i.vars := by
  obtain ⟨_, hfields, h⟩ := Outcome.bind_eq_ok.mp h
  cases hfields
  obtain ⟨id, hid, h⟩ := Outcome.bind_eq_ok.mp h
  obtain ⟨notes, hnotes, h⟩ := Outcome.bind_eq_ok.mp h
  obtain ⟨issue, hissue, h⟩ := Outcome.bind_eq_ok.mp h
  obtain ⟨file, hfile, h⟩ := Outcome.bind_eq_ok.mp h
  obtain ⟨line, hline, h⟩ := Outcome.bind_eq_ok.mp h
  obtain ⟨message, hmessage, h⟩ := Outcome.bind_eq_ok.mp h
  obtain ⟨snippet, hsnippet, h⟩ := Outcome.bind_eq_ok.mp h
  obtain ⟨vars, hvars, h⟩ := Outcome.bind_eq_ok.mp h
  cases h
  exact ⟨⟨hnotes, hissue⟩, hfile, hline, hmessage, hsnippet, hvars⟩

theorem exists_of_incidentData {issue : Nat} {incident : Json × Nat} {w : Json}
    (h : incidentData issue incident = .ok w) :
    ∃ i : HubIncident, HubIncident.decode w = .ok i ∧ i.issue = issue ∧ StandsFor i incident.1 := by
  obtain ⟨file, hfile, h⟩ := Outcome.bind_eq_ok.mp h
  obtain ⟨line, hline, h⟩ := Outcome.bind_eq_ok.mp h
  obtain ⟨message, hmessage, h⟩ := Outcome.bind_eq_ok.mp h
  obtain ⟨snippet, hsnippet, h⟩ := Outcome.bind_eq_ok.mp h
  obtain ⟨vars, hvars, h⟩ := Outcome.bind_eq_ok.mp h
  obtain ⟨i, hmade, h⟩ := Outcome.bind_eq_ok.mp h
  cases h
  obtain ⟨⟨hnotes, hissue⟩, hfile', hline', hmessage', hsnippet', hvars'⟩ :=
    HubIncident.parts_of_decode hmade
  refine ⟨i, HubIncident.decode_encode (Except.ok.inj hnotes).symm, (Except.ok.inj hissue).symm, ?_⟩
  constructor
  · rw [get?_of_part hfile, text_eq_ok.mp hfile']
  · rw [(exists_of_partOr hline).2, int_eq_ok.mp hline']
  · rw [get?_of_part hmessage, text_eq_ok.mp hmessage']
  · rw [(exists_of_partOr hsnippet).2, text_eq_ok.mp hsnippet']
  · rw [(exists_of_partOr hvars).2, object_eq_ok.mp hvars']

/-- A text is no incident. -/
theorem StandsFor.not_text {i : HubIncident} {v : Json} (h : StandsFor i v) : v.text? = none := by
  cases v with
  | str s => cases h.file
  | _ => rfl

/-! ## What becomes of a violation -/

/-- An issue is what becomes of a violation at a place of its rule set. -/
structure MadeOf (violation : (String × Json) × Nat) (issue : Issue) : Prop where
  id : issue.id = violation.2
  rule : issue.rule = violation.1.1
  named : ∀ i ∈ issue.incidents, i.issue = issue.id
  incidents : List.Forall₂ (fun v i => StandsFor i v) (violation.1.2.itemsAt "incidents")
    issue.incidents

/-- The parts of an issue that could be read. -/
theorem Issue.parts_of_decode {fields : Fields} {issue : Issue}
    (h : Issue.decode (.obj fields) = .ok issue) :
    required fields ["id"] int = .ok issue.id ∧ required fields ["rule"] text = .ok issue.rule ∧
      required fields ["incidents"] (listOf HubIncident.decode) = .ok issue.incidents := by
  obtain ⟨_, hfields, h⟩ := Outcome.bind_eq_ok.mp h
  cases hfields
  obtain ⟨id, hid, h⟩ := Outcome.bind_eq_ok.mp h
  obtain ⟨notes, -, h⟩ := Outcome.bind_eq_ok.mp h
  obtain ⟨analysis, -, h⟩ := Outcome.bind_eq_ok.mp h
  obtain ⟨ruleset, -, h⟩ := Outcome.bind_eq_ok.mp h
  obtain ⟨rule, hrule, h⟩ := Outcome.bind_eq_ok.mp h
  obtain ⟨name, -, h⟩ := Outcome.bind_eq_ok.mp h
  obtain ⟨description, -, h⟩ := Outcome.bind_eq_ok.mp h
  obtain ⟨category, -, h⟩ := Outcome.bind_eq_ok.mp h
  obtain ⟨effort, -, h⟩ := Outcome.bind_eq_ok.mp h
  obtain ⟨incidents, hincidents, h⟩ := Outcome.bind_eq_ok.mp h
  obtain ⟨links, -, h⟩ := Outcome.bind_eq_ok.mp h
  obtain ⟨labels, -, h⟩ := Outcome.bind_eq_ok.mp h
  cases h
  exact ⟨hid, hrule, hincidents⟩

/-- Reading what was written for each item of a list. -/
theorem forall₂_of_mapM_mapM {α β γ : Type} {f : α → Outcome β} {g : β → Outcome γ}
    {R : α → γ → Prop} (hR : ∀ x y z, f x = .ok y → g y = .ok z → R x z) {xs : List α}
    {ys : List β} {zs : List γ} (hf : xs.mapM f = .ok ys) (hg : ys.mapM g = .ok zs) :
    List.Forall₂ R xs zs := by
  have hwritten := Outcome.mapM_eq_ok.mp hf
  have hread := Outcome.mapM_eq_ok.mp hg
  clear hf hg
  induction hwritten generalizing zs with
  | nil =>
    cases hread
    exact .nil
  | cons hxy _ ih =>
    obtain ⟨z, zs', hyz, hrest, rfl⟩ := List.forall₂_cons_left_iff.mp hread
    exact .cons (hR _ _ _ hxy hyz) (ih hrest)

theorem madeOf_of_issueOf {analysis ruleset : Json} {violation : (String × Json) × Nat}
    {issue : Issue} (h : issueOf analysis ruleset violation = .ok issue) :
    MadeOf violation issue := by
  obtain ⟨held, hheld, h⟩ := Outcome.bind_eq_ok.mp h
  obtain ⟨items, heach, h⟩ := Outcome.bind_eq_ok.mp h
  obtain ⟨made, hmade, h⟩ := Outcome.bind_eq_ok.mp h
  obtain ⟨name, -, h⟩ := Outcome.bind_eq_ok.mp h
  obtain ⟨description, -, h⟩ := Outcome.bind_eq_ok.mp h
  obtain ⟨category, -, h⟩ := Outcome.bind_eq_ok.mp h
  obtain ⟨effort, -, h⟩ := Outcome.bind_eq_ok.mp h
  obtain ⟨links, -, h⟩ := Outcome.bind_eq_ok.mp h
  obtain ⟨labels, -, h⟩ := Outcome.bind_eq_ok.mp h
  obtain ⟨hid, hrule, hincidents⟩ := Issue.parts_of_decode h
  have hid' : issue.id = violation.2 := (Except.ok.inj hid).symm
  -- the incidents are read as they were written
  have hall : List.Forall₂ (fun v (i : HubIncident) => i.issue = violation.2 ∧ StandsFor i v.1)
      items.zipIdx issue.incidents := by
    refine forall₂_of_mapM_mapM (fun v w i hw hi => ?_) hmade hincidents
    obtain ⟨i', hi', hspec⟩ := exists_of_incidentData hw
    cases hi.symm.trans hi'
    exact hspec
  have hstand : List.Forall₂ (fun v i => StandsFor i v) (items.zipIdx.map Prod.fst)
      issue.incidents :=
    List.forall₂_map_left_iff.mpr (hall.imp fun _ _ hboth => hboth.2)
  -- only a list is gone through here, since no incident is a text
  have hitems : violation.1.2.itemsAt "incidents" = items.zipIdx.map Prod.fst := by
    have hget := (exists_of_partOr hheld).2
    have hlist : held.items?.getD [] = items := by
      refine items_of_each heach fun w hw => ?_
      rw [← List.zipIdx_map_fst 0 items] at hw
      obtain ⟨v, hv, rfl⟩ := List.mem_map.mp hw
      obtain ⟨w', -, hw'⟩ := Outcome.exists_of_mapM_eq_ok hmade hv
      obtain ⟨i, -, -, hi⟩ := exists_of_incidentData hw'
      exact hi.not_text
    rw [List.zipIdx_map_fst, ← hlist, ← hget, Json.itemsAt]
    cases violation.1.2.get? "incidents" with
    | none => rfl
    | some v => rfl
  refine ⟨hid', (Json.str.inj (text_eq_ok.mp hrule)).symm, fun i hi => ?_, hitems ▸ hstand⟩
  obtain ⟨v, -, howner, -⟩ := Json.exists_of_forall₂_right hall hi
  exact howner.trans hid'.symm

/-! ## What becomes of a report -/

/-- The rule sets in the data of a report. -/
def rulesetsIn (report : Json) : List Json := report.items?.getD []

/-- The violations in the data of a rule set, by rule. -/
def violationsIn (ruleset : Json) : Fields := ruleset.fieldsAt "violations"

/-- The incidents in the data of a report. -/
def incidentsIn (report : Json) : List Json :=
  (rulesetsIn report).flatMap fun r => (violationsIn r).flatMap fun v => v.2.itemsAt "incidents"

theorem madeOf_of_issuesOf {analysis ruleset : Json} {issues : List Issue}
    (h : issuesOf analysis ruleset = .ok issues) :
    ruleset.text? = none ∧ List.Forall₂ MadeOf (violationsIn ruleset).zipIdx issues := by
  obtain ⟨held, hheld, h⟩ := Outcome.bind_eq_ok.mp h
  obtain ⟨hobject, hget⟩ := exists_of_partOr hheld
  refine ⟨hobject, ?_⟩
  cases held with
  | obj violations =>
    have hviolations : violationsIn ruleset = violations := by
      rw [violationsIn, Json.fieldsAt]
      cases hget' : ruleset.get? "violations" with
      | none =>
        rw [hget'] at hget
        cases hget
        rfl
      | some v =>
        rw [hget'] at hget
        cases hget
        rfl
    rw [hviolations]
    exact (Outcome.mapM_eq_ok.mp h).imp fun _ _ => madeOf_of_issueOf
  | _ => cases h

/-- The issues of a report are those of its rule sets, one after the other. -/
theorem exists_groups {report analysis : Json} {issues : List Issue}
    (h : issuesOfReport report analysis = .ok issues) :
    ∃ groups : List (List Issue), issues = groups.flatten ∧
      List.Forall₂ (fun r group => List.Forall₂ MadeOf (violationsIn r).zipIdx group)
        (rulesetsIn report) groups := by
  obtain ⟨rulesets, heach, h⟩ := Outcome.bind_eq_ok.mp h
  obtain ⟨groups, hgroups, h⟩ := Outcome.bind_eq_ok.mp h
  cases h
  have hall := Outcome.mapM_eq_ok.mp hgroups
  have hrulesets : rulesetsIn report = rulesets := by
    refine items_of_each heach fun r hr => ?_
    obtain ⟨group, -, hgroup⟩ := Outcome.exists_of_mapM_eq_ok hgroups hr
    exact (madeOf_of_issuesOf hgroup).1
  rw [hrulesets]
  exact ⟨groups, rfl, hall.imp fun _ _ hgroup => (madeOf_of_issuesOf hgroup).2⟩

section Groups

variable {rulesets : List Json} {groups : List (List Issue)}
  (h : List.Forall₂ (fun r group => List.Forall₂ MadeOf (violationsIn r).zipIdx group)
    rulesets groups)

include h

theorem named_of_groups : ∀ issue ∈ groups.flatten, ∀ i ∈ issue.incidents, i.issue = issue.id := by
  intro issue hissue
  obtain ⟨group, hgroup, hin⟩ := List.mem_flatten.mp hissue
  obtain ⟨r, -, hr⟩ := Json.exists_of_forall₂_right h hgroup
  obtain ⟨violation, -, hmade⟩ := Json.exists_of_forall₂_right hr hin
  exact hmade.named

theorem standFor_of_groups :
    List.Forall₂ (fun v i => StandsFor i v)
      (rulesets.flatMap fun r => (violationsIn r).flatMap fun v => v.2.itemsAt "incidents")
      (groups.flatten.flatMap Issue.incidents) := by
  rw [List.flatten_eq_flatMap, List.flatMap_assoc]
  refine List.rel_flatMap h fun r group hgroup => ?_
  have hplaces : List.Forall₂ (fun v i => StandsFor i v)
      ((violationsIn r).zipIdx.flatMap fun v => v.1.2.itemsAt "incidents")
      (group.flatMap Issue.incidents) :=
    List.rel_flatMap hgroup fun violation issue hmade => hmade.incidents
  -- where a violation stands does not matter for its incidents
  have hfst : ((violationsIn r).zipIdx.flatMap fun v => v.1.2.itemsAt "incidents") =
      (violationsIn r).flatMap fun v => v.2.itemsAt "incidents" := by
    conv_rhs => rw [← List.zipIdx_map_fst 0 (violationsIn r), List.flatMap_map]
  rw [hfst] at hplaces
  exact hplaces

/-- The numbers start again with each rule set. -/
theorem ids_of_groups :
    groups.flatten.map Issue.id =
      rulesets.flatMap fun r => (List.range (violationsIn r).length).map Int.ofNat := by
  rw [List.map_flatten, List.flatMap_def]
  congr 1
  induction h with
  | nil => rfl
  | cons hgroup _ ih =>
    rw [List.map_cons, List.map_cons, ih]
    congr 1
    have hplaces := Json.map_eq_map_iff_forall₂.mpr
      (hgroup.imp fun violation issue hmade => (hmade.id.symm : Int.ofNat violation.2 = issue.id))
    rw [← hplaces, List.range_eq_range', ← List.zipIdx_map_snd 0, List.map_map]
    rfl

end Groups

/-! ## Numbers as identities -/

/-- The number of an issue tells which issue is meant: numbers differ, and an incident names the issue
that it is in and no other. -/
structure Identified (issues : List Issue) : Prop where
  distinct : (issues.map Issue.id).Nodup
  named : ∀ issue ∈ issues, ∀ i ∈ issue.incidents, ∀ other ∈ issues,
    other.id = i.issue ↔ other = issue

/-- Every rule set with violations has an issue of the number zero. -/
theorem nodup_ranges_iff {rulesets : List Json} :
    (rulesets.flatMap fun r => (List.range (violationsIn r).length).map Int.ofNat).Nodup ↔
      rulesets.Pairwise fun a b => violationsIn a = [] ∨ violationsIn b = [] := by
  have hrange : ∀ r ∈ rulesets, ((List.range (violationsIn r).length).map Int.ofNat).Nodup :=
    fun r _ => List.nodup_range.map fun _ _ => Int.ofNat.inj
  rw [List.nodup_flatMap, and_iff_right hrange]
  refine List.Pairwise.iff fun {a b} => ?_
  constructor
  · intro hdisjoint
    by_contra hboth
    rw [not_or] at hboth
    -- each of the two would have the number zero
    have hzero : ∀ {vs : Fields}, vs ≠ [] → (0 : Int) ∈ (List.range vs.length).map Int.ofNat :=
      fun hvs => List.mem_map.mpr ⟨0, List.mem_range.mpr (List.length_pos_iff.mpr hvs), rfl⟩
    exact hdisjoint (hzero hboth.1) (hzero hboth.2)
  · rintro (hnone | hnone)
    · simp [Function.onFun, hnone]
    · simp [Function.onFun, hnone]

theorem identified_iff {issues : List Issue}
    (hnamed : ∀ issue ∈ issues, ∀ i ∈ issue.incidents, i.issue = issue.id) :
    Identified issues ↔ (issues.map Issue.id).Nodup := by
  refine ⟨Identified.distinct, fun hdistinct => ⟨hdistinct, fun issue hissue i hi other hother => ?_⟩⟩
  rw [hnamed issue hissue i hi]
  exact ⟨fun hid => List.inj_on_of_nodup_map hdistinct hother hissue hid, fun h => h ▸ rfl⟩

/-- The form in which a hub takes a report. -/
def hubReport (commit : Json) (issues : List Issue) : Json :=
  .obj [("commit", commit), ("issues", .arr (issues.map Issue.encode)), ("dependencies", .arr [])]

/-- **Numbers tell issues apart in one rule set only.** The incidents of the issues are those of the
report, in order, and each names the issue that it is in. The issues are numbered from zero in each
rule set, so a number tells which issue is meant exactly if no two rule sets have violations. -/
theorem issues_identified_iff {report analysis commit result : Json}
    (h : reformat report analysis commit = .ok result) :
    ∃ issues, result = hubReport commit issues ∧
      List.Forall₂ (fun v i => StandsFor i v) (incidentsIn report)
        (issues.flatMap Issue.incidents) ∧
      (∀ issue ∈ issues, ∀ i ∈ issue.incidents, i.issue = issue.id) ∧
      issues.map Issue.id =
        (rulesetsIn report).flatMap (fun r =>
          (List.range (violationsIn r).length).map Int.ofNat) ∧
      (Identified issues ↔
        (rulesetsIn report).Pairwise fun a b => violationsIn a = [] ∨ violationsIn b = []) := by
  obtain ⟨issues, hissues, h⟩ := Outcome.bind_eq_ok.mp h
  cases h
  obtain ⟨groups, rfl, hgroups⟩ := exists_groups hissues
  have hnamed := named_of_groups hgroups
  have hids := ids_of_groups hgroups
  refine ⟨groups.flatten, rfl, standFor_of_groups hgroups, hnamed, hids, ?_⟩
  rw [identified_iff hnamed, hids, nodup_ranges_iff]

/-- A rule set with violations that have one incident each. -/
def plainRuleset (name : String) (rules : List String) : Json :=
  .obj [("name", .str name), ("violations", .obj (rules.map fun rule => (rule, .obj
    [("description", .str "d"), ("category", .str "mandatory"),
     ("incidents", .arr [.obj [("uri", .str (rule ++ ".java")), ("message", .str "m")]])])))]

/-- One rule set with violations among others without: the numbers tell the issues apart. -/
theorem issues_identified_among_empty :
    let report := Json.arr [plainRuleset "a" [], plainRuleset "b" ["r", "s"], plainRuleset "c" []]
    ∃ result, reformat report (.int 1) (.str "x") = .ok result ∧
      ∃ issues, result = hubReport (.str "x") issues ∧ issues.map Issue.id = [0, 1] ∧
        Identified issues := by
  intro report
  obtain ⟨result, hmade⟩ : ∃ result, reformat report (.int 1) (.str "x") = .ok result := ⟨_, rfl⟩
  obtain ⟨issues, hresult, -, -, hids, hiff⟩ := issues_identified_iff hmade
  have hone : (rulesetsIn report).Pairwise fun a b => violationsIn a = [] ∨ violationsIn b = [] := by
    decide
  exact ⟨result, hmade, issues, hresult, hids, hiff.mpr hone⟩

/-- The issue of a violation that stands first in such a rule set. -/
def firstIssue (ruleset rule : String) : Issue where
  id := 0
  notes := noNotes
  analysis := 1
  ruleset
  rule
  name := rule
  description := "d"
  category := "mandatory"
  effort := 0
  incidents := [{ id := 0, notes := noNotes, issue := 0, file := rule ++ ".java", line := 0
                  message := "m", snippet := "", vars := [] }]
  links := some []
  labels := []

/-- Two rule sets with a violation each: both issues have the number zero, which the incidents of both
name. -/
theorem ids_start_again :
    reformat (.arr [plainRuleset "a" ["r"], plainRuleset "b" ["s"]]) (.int 1) (.str "x") =
        .ok (hubReport (.str "x") [firstIssue "a" "r", firstIssue "b" "s"]) ∧
      firstIssue "a" "r" ≠ firstIssue "b" "s" ∧
      ¬ Identified [firstIssue "a" "r", firstIssue "b" "s"] := by
  refine ⟨rfl, by decide, fun h => ?_⟩
  exact absurd h.distinct (by decide)

end Remedy.Hub
