import Remedy.Report.Decode
import Remedy.Proofs.Action
import Remedy.Proofs.Json.Fields
import Remedy.Proofs.Number.Decimal
import Mathlib.Data.List.Nodup

/-!
# Which rule sets a report is left with

Rule sets are added to a report one after the other, each under its name. Data that has no entry for
a name is given one by counting such data; an entry that is there is taken as it is, a null included.
A rule set takes the place of one that was added under the same name, so a report is left with the
last rule set of each name. Names meet in three ways: two entries are the same, two entries are null,
or an entry is a name that was made up for other data.

Main results:

* `decode_set_name`: a name that is given to data without one changes nothing but the name.
* `addAll_eq`: reading the data of a report is putting rule sets one after the other.
* `mem_foldl_put`: of rule sets that are put one after the other, the last of each name stays.
* `nodup_names_iff`: when all rule sets of a report have different names.
* `every_incident_loaded_iff`: when every incident that is in the data is in the report.
-/

namespace Remedy

/-- The incidents of a rule set. -/
def RuleSet.incidents (r : RuleSet) : List Incident :=
  r.violations.flatMap fun v => v.2.incidents

/-- A file holds the data, by the way in which texts are read. -/
def FileTree.Holds (read : String → Option Json) (files : FileTree) (path : String) (data : Json) :
    Prop :=
  ∃ content, files.read path = .ok content ∧ read content = some data

/-! ## Data without a name -/

namespace Decode

theorem withDefault_set {α : Type} (data : Fields) {name key : String} (hne : key ≠ name) (v : Json)
    (item : Json → Outcome α) (default : α) :
    withDefault (data.set name v) [key] item default = withDefault data [key] item default := by
  unfold withDefault Fields.firstOf?
  rw [List.findSome?_cons, List.findSome?_cons, Fields.get?_set, if_neg hne]
  rfl

theorem withDefault_of_set {α : Type} (data : Fields) (name : String) (v : Json)
    (item : Json → Outcome α) (default : α) :
    withDefault (data.set name v) [name] item default = item v := by
  unfold withDefault Fields.firstOf?
  rw [List.findSome?_cons, Fields.get?_set, if_pos rfl]

theorem withDefault_of_notMem {α : Type} {data : Fields} {name : String} (h : name ∉ data.keys)
    (item : Json → Outcome α) (default : α) :
    withDefault data [name] item default = .ok default := by
  unfold withDefault Fields.firstOf?
  rw [List.findSome?_cons, Fields.get?_eq_none_iff.mpr h]
  rfl

end Decode

namespace Report

open Decode

/-- A name that is given to data without one changes nothing but the name of what is read. -/
theorem decode_set_name {fields : Fields} (hname : "name" ∉ fields.keys) (name : String) :
    RuleSet.decode (.obj (fields.set "name" (.str name))) =
      (RuleSet.decode (.obj fields)).map fun r => { r with name := some name } := by
  unfold RuleSet.decode
  show (withDefault (fields.set "name" (.str name)) ["name"] (nullable text) none >>= _) =
    (withDefault fields ["name"] (nullable text) none >>= _).map _
  rw [withDefault_of_set, withDefault_of_notMem hname]
  simp only [withDefault_set fields (show "description" ≠ "name" by decide),
    withDefault_set fields (show "tags" ≠ "name" by decide),
    withDefault_set fields (show "violations" ≠ "name" by decide),
    withDefault_set fields (show "errors" ≠ "name" by decide),
    withDefault_set fields (show "unmatched" ≠ "name" by decide),
    withDefault_set fields (show "skipped" ≠ "name" by decide)]
  -- the other parts are read alike, and the first that fails ends both readings
  rcases withDefault fields ["description"] text "" with e | description
  · rfl
  rcases withDefault fields ["tags"] (nullable (listOf text)) none with e | tags
  · rfl
  rcases withDefault fields ["violations"] (mapOf Violation.decode) [] with e | violations
  · rfl
  rcases withDefault fields ["errors"] (nullable (mapOf text)) none with e | errors
  · rfl
  rcases withDefault fields ["unmatched"] (nullable (listOf text)) none with e | unmatched
  · rfl
  rcases withDefault fields ["skipped"] (nullable (listOf text)) none with e | skipped
  · rfl
  · rfl

/-- The data has an entry for a name, be it null. -/
def hasName : Json → Bool
  | .obj fields => Fields.has fields "name"
  | _ => false

/-- The data are those of the rule sets, one by one. -/
def ReadAs (data : List Json) (rs : List RuleSet) : Prop :=
  List.Forall₂ (fun d r => RuleSet.decode d = .ok r) data rs

/-- Rule sets under the names by which they are added, if so many came without a name before. -/
def named : Nat → List Json → List RuleSet → List RuleSet
  | n, d :: data, r :: rs =>
    if hasName d then r :: named n data rs
    else { r with name := some (unnamed n) } :: named (n + 1) data rs
  | _, _, _ => []

theorem exists_fields_of_decode {d : Json} {r : RuleSet} (h : RuleSet.decode d = .ok r) :
    ∃ fields, d = .obj fields := by
  obtain ⟨fields, hfields, -⟩ := Outcome.bind_eq_ok.mp h
  cases d with
  | obj fields => exact ⟨fields, rfl⟩
  | _ => cases hfields

/-- Reading the data of a report is putting its rule sets one after the other. -/
theorem addAll_eq {data : List Json} {rs : List RuleSet} (h : ReadAs data rs) (n : Nat)
    (added : List RuleSet) : addAll added n data = .ok ((named n data rs).foldl put added) := by
  induction h generalizing n added with
  | nil => rfl
  | @cons d r data rs hd _ ih =>
    obtain ⟨fields, rfl⟩ := exists_fields_of_decode hd
    by_cases hname : Fields.has fields "name" = true
    · have hdata : nameData n (.obj fields) = .ok (.obj fields, n) := if_pos hname
      have hstep : named n (.obj fields :: data) (r :: rs) = r :: named n data rs := if_pos hname
      rw [addAll, hdata, hstep, List.foldl_cons, ← ih]
      show (RuleSet.decode (.obj fields) >>= _) = _
      rw [hd]
      rfl
    · -- the name that is made up is counted, and the rule set is the one of the data but for it
      have hdata : nameData n (.obj fields) =
          .ok (.obj (Fields.set fields "name" (.str (unnamed n))), n + 1) := if_neg hname
      have hstep : named n (.obj fields :: data) (r :: rs) =
          { r with name := some (unnamed n) } :: named (n + 1) data rs := if_neg hname
      have hread := decode_set_name (mt Fields.has_iff.mpr hname) (unnamed n)
      rw [addAll, hdata, hstep, List.foldl_cons, ← ih]
      show (RuleSet.decode (.obj (Fields.set fields "name" (.str (unnamed n)))) >>= _) = _
      rw [hread, hd]
      rfl

/-! ## Putting rule sets one after the other -/

section Put

variable {added rs : List RuleSet} {r x : RuleSet}

theorem names_put :
    (put added r).map RuleSet.name =
      if r.name ∈ added.map RuleSet.name then added.map RuleSet.name
      else added.map RuleSet.name ++ [r.name] := by
  induction added with
  | nil => simp [put]
  | cons s added ih =>
    by_cases hs : s.name = r.name
    · simp [put, hs]
    · have hs' : r.name ≠ s.name := fun h => hs h.symm
      rw [put, if_neg hs, List.map_cons, ih, List.map_cons]
      by_cases hmem : r.name ∈ added.map RuleSet.name
      · rw [if_pos hmem, if_pos (List.mem_cons_of_mem _ hmem)]
      · have hmem' : r.name ∉ s.name :: added.map RuleSet.name := by
          rw [List.mem_cons]
          exact fun h => h.elim hs' hmem
        rw [if_neg hmem, if_neg hmem', List.cons_append]

theorem nodup_names_put (h : (added.map RuleSet.name).Nodup) :
    ((put added r).map RuleSet.name).Nodup := by
  rw [names_put]
  split
  · exact h
  · rename_i hnew
    exact List.nodup_append.mpr ⟨h, List.nodup_singleton _, fun a ha b hb hab => hnew (by
      rw [← List.mem_singleton.mp hb, ← hab]
      exact ha)⟩

theorem put_of_notMem (h : r.name ∉ added.map RuleSet.name) : put added r = added ++ [r] := by
  induction added with
  | nil => rfl
  | cons s added ih =>
    rw [List.map_cons, List.mem_cons, not_or] at h
    rw [put, if_neg (fun hs => h.1 hs.symm), ih h.2, List.cons_append]

/-- A rule set is as it was if it has another name than the one that is put. -/
theorem mem_put (hnodup : (added.map RuleSet.name).Nodup) :
    x ∈ put added r ↔ x = r ∨ x ∈ added ∧ x.name ≠ r.name := by
  induction added with
  | nil => simp [put]
  | cons s added ih =>
    rw [List.map_cons, List.nodup_cons] at hnodup
    by_cases hs : s.name = r.name
    · -- no other rule set than the one replaced has the name
      have hother : x ∈ added → x.name ≠ r.name := by
        intro hx hname
        exact hnodup.1 (List.mem_map.mpr ⟨x, hx, hname.trans hs.symm⟩)
      rw [put, if_pos hs, List.mem_cons, List.mem_cons]
      constructor
      · rintro (hx | hx)
        · exact Or.inl hx
        · exact Or.inr ⟨Or.inr hx, hother hx⟩
      · rintro (hx | ⟨rfl | hx, hne⟩)
        · exact Or.inl hx
        · exact absurd hs hne
        · exact Or.inr hx
    · rw [put, if_neg hs, List.mem_cons, List.mem_cons, ih hnodup.2]
      constructor
      · rintro (rfl | rfl | hx)
        · exact Or.inr ⟨Or.inl rfl, hs⟩
        · exact Or.inl rfl
        · exact Or.inr ⟨Or.inr hx.1, hx.2⟩
      · rintro (rfl | ⟨rfl | hx, hne⟩)
        · exact Or.inr (Or.inl rfl)
        · exact Or.inl rfl
        · exact Or.inr (Or.inr ⟨hx, hne⟩)

/-- The rule set stands in the list, and none of its name follows it. -/
def Lasts (rs : List RuleSet) (x : RuleSet) : Prop :=
  ∃ before after, rs = before ++ x :: after ∧ ∀ s ∈ after, s.name ≠ x.name

theorem lasts_cons :
    Lasts (r :: rs) x ↔ Lasts rs x ∨ x = r ∧ ∀ s ∈ rs, s.name ≠ x.name := by
  constructor
  · rintro ⟨before, after, hsplit, hafter⟩
    cases before with
    | nil =>
      obtain ⟨rfl, rfl⟩ := List.cons.inj hsplit
      exact Or.inr ⟨rfl, hafter⟩
    | cons y before =>
      obtain ⟨-, rfl⟩ := List.cons.inj hsplit
      exact Or.inl ⟨before, after, rfl, hafter⟩
  · rintro (⟨before, after, rfl, hafter⟩ | ⟨rfl, hafter⟩)
    · exact ⟨r :: before, after, rfl, hafter⟩
    · exact ⟨[], rs, rfl, hafter⟩

theorem nodup_names_foldl_put (h : (added.map RuleSet.name).Nodup) :
    ((rs.foldl put added).map RuleSet.name).Nodup := by
  induction rs generalizing added with
  | nil => exact h
  | cons r rs ih => exact ih (nodup_names_put h)

/-- Of rule sets that are put one after the other, the last of each name stays, and so does what was
there under other names. -/
theorem mem_foldl_put (h : (added.map RuleSet.name).Nodup) :
    x ∈ rs.foldl put added ↔ Lasts rs x ∨ x ∈ added ∧ ∀ s ∈ rs, s.name ≠ x.name := by
  induction rs generalizing added with
  | nil => simp [Lasts]
  | cons r rs ih =>
    rw [List.foldl_cons, ih (nodup_names_put h), mem_put h, lasts_cons, List.forall_mem_cons]
    constructor
    · rintro (hlast | ⟨rfl | ⟨hx, hne⟩, hlater⟩)
      · exact Or.inl (Or.inl hlast)
      · exact Or.inl (Or.inr ⟨rfl, hlater⟩)
      · exact Or.inr ⟨hx, hne.symm, hlater⟩
    · rintro ((hlast | ⟨rfl, hlater⟩) | ⟨hx, hne, hlater⟩)
      · exact Or.inl hlast
      · exact Or.inr ⟨Or.inl rfl, hlater⟩
      · exact Or.inr ⟨Or.inr ⟨hx, hne.symm⟩, hlater⟩

/-- Rule sets of different names are all there, in their order. -/
theorem foldl_put_of_nodup (h : ((added ++ rs).map RuleSet.name).Nodup) :
    rs.foldl put added = added ++ rs := by
  induction rs generalizing added with
  | nil => rw [List.append_nil]; rfl
  | cons r rs ih =>
    have hnew : r.name ∉ added.map RuleSet.name := by
      rw [List.map_append, List.map_cons, List.nodup_append] at h
      exact fun hmem => h.2.2 r.name hmem r.name List.mem_cons_self rfl
    have hmove : added ++ r :: rs = (added ++ [r]) ++ rs := by simp
    rw [List.foldl_cons, put_of_notMem hnew, ih (hmove ▸ h), hmove]

end Put

/-! ## Which names meet -/

theorem unnamed_injective : Function.Injective unnamed := by
  intro m n h
  have hchars : Decimal.naturalChars m = Decimal.naturalChars n := by
    have htexts := congrArg String.toList h
    unfold unnamed Decimal.natural at htexts
    simp only [String.toList_append, String.toList_ofList] at htexts
    exact List.append_cancel_left htexts
  rw [← Decimal.valueOf_naturalChars m, hchars, Decimal.valueOf_naturalChars]

/-- The names that stand in the data, a null among them. -/
def givenNames (data : List Json) (rs : List RuleSet) : List (Option String) :=
  ((data.zip rs).filter fun p => hasName p.1).map fun p => p.2.name

/-- How many names have to be made up. -/
def missingNames (data : List Json) : Nat :=
  data.countP fun d => !hasName d

/-- The names that are made up, from one on. -/
def madeUp (n count : Nat) : List (Option String) :=
  (List.range count).map fun k => some (unnamed (n + k))

theorem madeUp_succ (n count : Nat) :
    madeUp n (count + 1) = some (unnamed n) :: madeUp (n + 1) count := by
  unfold madeUp
  rw [List.range_succ_eq_map, List.map_cons, List.map_map, Nat.add_zero]
  refine congrArg _ (List.map_congr_left fun k _ => ?_)
  show some (unnamed (n + (k + 1))) = some (unnamed (n + 1 + k))
  rw [show n + (k + 1) = n + 1 + k by omega]

theorem nodup_madeUp (n count : Nat) : (madeUp n count).Nodup := by
  refine List.Nodup.map ?_ List.nodup_range
  intro a b hab
  have heq := unnamed_injective (Option.some.inj hab)
  omega

/-- Rule sets are added under the names that are given and those that are made up. -/
theorem names_named_perm {data : List Json} {rs : List RuleSet} (h : ReadAs data rs) (n : Nat) :
    ((named n data rs).map RuleSet.name).Perm
      (givenNames data rs ++ madeUp n (missingNames data)) := by
  induction h generalizing n with
  | nil => exact List.Perm.refl _
  | @cons d r data rs _ _ ih =>
    by_cases hname : hasName d = true
    · have hgiven : givenNames (d :: data) (r :: rs) = r.name :: givenNames data rs := by
        simp [givenNames, hname]
      have hmissing : missingNames (d :: data) = missingNames data := by
        simp [missingNames, hname]
      rw [named, if_pos hname, hgiven, hmissing, List.map_cons, List.cons_append]
      exact (ih n).cons _
    · have hgiven : givenNames (d :: data) (r :: rs) = givenNames data rs := by
        simp [givenNames, hname]
      have hmissing : missingNames (d :: data) = missingNames data + 1 := by
        simp [missingNames, hname]
      rw [named, if_neg hname, hgiven, hmissing, madeUp_succ, List.map_cons]
      exact ((ih (n + 1)).cons _).trans List.perm_middle.symm

/-- No two names that are given are the same, and none of them is one that is made up. -/
structure NamesApart (data : List Json) (rs : List RuleSet) : Prop where
  given : (givenNames data rs).Nodup
  madeUp : ∀ k < missingNames data, some (unnamed k) ∉ givenNames data rs

theorem nodup_names_iff {data : List Json} {rs : List RuleSet} (h : ReadAs data rs) :
    ((named 0 data rs).map RuleSet.name).Nodup ↔ NamesApart data rs := by
  rw [(names_named_perm h 0).nodup_iff, List.nodup_append]
  constructor
  · rintro ⟨hgiven, -, hmet⟩
    refine ⟨hgiven, fun k hk hmem => hmet _ hmem _ ?_ rfl⟩
    exact List.mem_map.mpr ⟨k, List.mem_range.mpr hk, by rw [Nat.zero_add]⟩
  · rintro ⟨hgiven, hmade⟩
    refine ⟨hgiven, nodup_madeUp 0 _, fun a ha b hb hab => ?_⟩
    obtain ⟨k, hk, rfl⟩ := List.mem_map.mp hb
    rw [Nat.zero_add] at hab
    exact hmade k (List.mem_range.mp hk) (hab ▸ ha)

/-! ## Reports in files -/

theorem ofFile_of_holds {read : String → Option Json} {files : FileTree} {path : String} {data : Json}
    (h : files.Holds read path data) : ofFile read files path = ofJson (digest data) data := by
  obtain ⟨content, hread, hparse⟩ := h
  unfold ofFile
  rw [hread]
  show ofText read content = _
  unfold ofText
  rw [hparse]

/-! ## What is lost -/

theorem incidents_named {data : List Json} {rs : List RuleSet} (h : ReadAs data rs) (n : Nat) :
    (named n data rs).map RuleSet.incidents = rs.map RuleSet.incidents := by
  induction h generalizing n with
  | nil => rfl
  | @cons d r data rs _ _ ih =>
    rw [named]
    split
    · rw [List.map_cons, ih n, List.map_cons]
    · rw [List.map_cons, ih (n + 1), List.map_cons]
      rfl

theorem forall_incidents_named {data : List Json} {rs : List RuleSet} (h : ReadAs data rs)
    {P : Incident → Prop} :
    (∀ r ∈ rs, ∀ i ∈ r.incidents, P i) ↔ ∀ r ∈ named 0 data rs, ∀ i ∈ r.incidents, P i := by
  have hall : ∀ l : List RuleSet, (∀ r ∈ l, ∀ i ∈ r.incidents, P i) ↔
      ∀ is ∈ l.map RuleSet.incidents, ∀ i ∈ is, P i := by
    intro l
    rw [List.forall_mem_map]
  rw [hall, hall, incidents_named h]

/-- **What is lost in loading.** A list of data each of which can be read as a rule set is loaded.
Of the rule sets, under the names that are given and made up, the report has the last of each name.
So every incident of the data is in the report if and only if each incident of a rule set that is
followed by one of its name stands also in a rule set that is not; and all rule sets are in the
report, in their order, if and only if the names that are given differ and none of them is one that
is made up. -/
theorem every_incident_loaded_iff {data : List Json} {rs : List RuleSet} (h : ReadAs data rs)
    (id : String) :
    ∃ report, Report.ofJson id (.arr data) = .ok report ∧
      (∀ r, r ∈ report.rulesets ↔ Lasts (named 0 data rs) r) ∧
      ((∀ r ∈ rs, ∀ i ∈ r.incidents, ∃ s ∈ report.rulesets, i ∈ s.incidents) ↔
        ∀ before r after, named 0 data rs = before ++ r :: after →
          (∃ s ∈ after, s.name = r.name) → ∀ i ∈ r.incidents,
            ∃ s, Lasts (named 0 data rs) s ∧ i ∈ s.incidents) ∧
      (report.rulesets = named 0 data rs ↔ NamesApart data rs) := by
  have hload : Report.ofJson id (.arr data) = .ok ⟨id, (named 0 data rs).foldl put []⟩ := by
    unfold Report.ofJson
    dsimp only
    rw [addAll_eq h 0 []]
    rfl
  have hmem : ∀ r, r ∈ (named 0 data rs).foldl put [] ↔ Lasts (named 0 data rs) r := by
    intro r
    rw [mem_foldl_put (by simp)]
    simp
  refine ⟨_, hload, hmem, ?_, ?_⟩
  · rw [forall_incidents_named h]
    simp only [hmem]
    constructor
    · intro hall before r after hsplit _ i hi
      exact hall r (by rw [hsplit]; simp) i hi
    · intro hreplaced r hr i hi
      obtain ⟨before, after, hsplit⟩ := List.append_of_mem hr
      -- a rule set that no other of its name follows is in the report itself
      by_cases hlater : ∃ s ∈ after, s.name = r.name
      · exact hreplaced before r after hsplit hlater i hi
      · exact ⟨r, ⟨before, after, hsplit, fun s hs hname => hlater ⟨s, hs, hname⟩⟩, hi⟩
  · rw [← nodup_names_iff h]
    constructor
    · intro hall
      rw [← hall]
      exact nodup_names_foldl_put (by simp)
    · intro hnodup
      exact foldl_put_of_nodup (by simpa using hnodup)

/-- The data of a rule set with one incident, with or without an entry for the name. -/
def dataWith (name : Option Json) (message : String) : Json :=
  .obj ((name.map fun v => ("name", v)).toList ++
    [("violations", .obj [("v", .obj [("incidents", .arr [.obj
      [("uri", .str "file:///A.java"), ("message", .str message)]])])])])

/-- The incident in such data. -/
def incidentSaying (message : String) : Incident :=
  { uri := "file:///A.java", message }

/-- The rule set that such data is read as. -/
def rulesetWith (name : Option String) (message : String) : RuleSet :=
  { name, violations := [("v", { incidents := [incidentSaying message] })] }

/-- Two rule sets without a name, between them one that has a name and one whose name is null. -/
theorem every_incident_loaded_mixed :
    let data := [dataWith none "first", dataWith (some (.str "a")) "second",
      dataWith (some .null) "third", dataWith none "fourth"]
    let rs := [rulesetWith none "first", rulesetWith (some "a") "second", rulesetWith none "third",
      rulesetWith none "fourth"]
    ReadAs data rs ∧ ∃ report, Report.ofJson "id" (.arr data) = .ok report ∧
      report.names = [some "Unnamed ruleset 0", some "a", none, some "Unnamed ruleset 1"] ∧
      ∀ r ∈ rs, ∀ i ∈ r.incidents, ∃ s ∈ report.rulesets, i ∈ s.incidents := by
  intro data rs
  have hread : ReadAs data rs :=
    .cons (by decide) (.cons (by decide) (.cons (by decide) (.cons (by decide) .nil)))
  obtain ⟨report, hload, -, hall, hsame⟩ := every_incident_loaded_iff hread "id"
  have happart : NamesApart data rs := ⟨by decide, by decide⟩
  have hrulesets := hsame.mpr happart
  refine ⟨hread, report, hload, ?_, hall.mpr ?_⟩
  · rw [Report.names, hrulesets]
    decide
  · -- no rule set is followed by one of its name
    intro before r after hsplit ⟨s, hs, hname⟩
    have hnodup := (nodup_names_iff hread).mpr happart
    rw [hsplit, List.map_append, List.map_cons] at hnodup
    have hnone := (List.nodup_cons.mp (List.nodup_append.mp hnodup).2.1).1
    exact absurd (List.mem_map.mpr ⟨s, hs, hname⟩) hnone

/-- All incidents that are in the report when data is loaded. -/
def loadedIncidents (data : List Json) : Outcome (List Incident) :=
  (Report.ofJson "id" (.arr data)).map fun report => report.rulesets.flatMap RuleSet.incidents

/-- Data can be read by itself. It is lost where names meet: the same name twice, a name that is
made up for the data before it, and null twice. -/
theorem incident_lost_where_names_meet :
    loadedIncidents [dataWith (some (.str "a")) "first"] = .ok [incidentSaying "first"] ∧
    loadedIncidents [dataWith (some (.str "a")) "first", dataWith (some (.str "a")) "second"] =
      .ok [incidentSaying "second"] ∧
    loadedIncidents [dataWith none "first", dataWith (some (.str "Unnamed ruleset 0")) "second"] =
      .ok [incidentSaying "second"] ∧
    loadedIncidents [dataWith (some .null) "first", dataWith (some .null) "second"] =
      .ok [incidentSaying "second"] := by
  decide

end Report

end Remedy
