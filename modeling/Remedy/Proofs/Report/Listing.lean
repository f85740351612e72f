import Remedy.Proofs.Report.Impacted
import Remedy.Proofs.Report.Location

/-!
# What is listed for each file

A report is gone through once, rule set by rule set, violation by violation and incident by incident,
and each incident is put behind those that its file already has. So the incidents of a file stand in
the order of the report, and the files in the order in which they first occur. An incident can be
listed only if its rule set has a name: one without a name that occurs in a file which is not left out
makes the whole report fail.

Main results:

* `ImpactedFiles.paths_add`, `ImpactedFiles.mem_add`: what one more incident does to the files.
* `Report.Arranged.gather`: one more occurrence keeps the files arranged.
* `Report.foldlM_gather_of_allNamed`, `Report.foldlM_gather_of_not_allNamed`: gathering fails exactly
  if an incident that is not left out has no rule set to refer to.
* `Report.impactedFiles_arranged`: which reports have their files listed, and how.
-/

namespace Remedy

/-! ## One more incident -/

namespace ImpactedFiles

variable {files : ImpactedFiles} {path : String} {i : ExtendedIncident}

/-- A file is entered at the end, unless it is there. -/
theorem paths_add :
    (files.add path i).map Prod.fst =
      if path ∈ files.map Prod.fst then files.map Prod.fst else files.map Prod.fst ++ [path] := by
  induction files with
  | nil => simp [add]
  | cons f rest ih =>
    obtain ⟨p, is⟩ := f
    by_cases hp : p = path
    · simp [add, hp]
    · rw [add, if_neg hp, List.map_cons, ih, List.map_cons]
      by_cases hmem : path ∈ rest.map Prod.fst
      · rw [if_pos hmem, if_pos (List.mem_cons_of_mem _ hmem)]
      · have hmem' : path ∉ p :: rest.map Prod.fst := by
          rw [List.mem_cons]
          exact fun h => h.elim (fun h => hp h.symm) hmem
        rw [if_neg hmem, if_neg hmem', List.cons_append]

/-- A file is as it was, or it is the one with the new incident at the end. -/
theorem mem_add (hnodup : (files.map Prod.fst).Nodup) {f : String × List ExtendedIncident}
    (h : f ∈ files.add path i) :
    f ∈ files ∧ f.1 ≠ path ∨ path ∉ files.map Prod.fst ∧ f = (path, [i]) ∨
      ∃ is, (path, is) ∈ files ∧ f = (path, is ++ [i]) := by
  induction files with
  | nil =>
    rw [add, List.mem_singleton] at h
    exact Or.inr (Or.inl ⟨List.not_mem_nil, h⟩)
  | cons g rest ih =>
    obtain ⟨p, is⟩ := g
    rw [List.map_cons, List.nodup_cons] at hnodup
    by_cases hp : p = path
    · subst hp
      rw [add, if_pos rfl, List.mem_cons] at h
      rcases h with rfl | h
      · exact Or.inr (Or.inr ⟨is, List.mem_cons_self, rfl⟩)
      · -- the path stands nowhere else
        refine Or.inl ⟨List.mem_cons_of_mem _ h, ?_⟩
        rintro rfl
        exact hnodup.1 (List.mem_map.mpr ⟨f, h, rfl⟩)
    · rw [add, if_neg hp, List.mem_cons] at h
      rcases h with rfl | h
      · exact Or.inl ⟨List.mem_cons_self, hp⟩
      · rcases ih hnodup.2 h with ⟨hf, hne⟩ | ⟨hnew, rfl⟩ | ⟨is', hmem, rfl⟩
        · exact Or.inl ⟨List.mem_cons_of_mem _ hf, hne⟩
        · refine Or.inr (Or.inl ⟨?_, rfl⟩)
          rw [List.map_cons, List.mem_cons]
          exact fun h => h.elim (fun h => hp h.symm) hnew
        · exact Or.inr (Or.inr ⟨is', List.mem_cons_of_mem _ hmem, rfl⟩)

end ImpactedFiles

/-! ## Occurrences -/

namespace Report

/-- An incident with the rule set and the violation it is reported for. -/
abbrev Occurrence := RuleSet × (String × Violation) × Incident

/-- The path inside the application of the file in which an incident occurs, if its address has
one. -/
def pathOf (o : Occurrence) : Option String := (Location.ofUri o.2.2.uri).toOption

theorem pathOf_eq_some {o : Occurrence} {path : String} :
    pathOf o = some path ↔ Location.ofUri o.2.2.uri = .ok path := by
  rw [pathOf]
  cases Location.ofUri o.2.2.uri with
  | error e => simp [Except.toOption]
  | ok p => simp [Except.toOption]

/-- The occurrences in one file. -/
def found (path : String) (os : List Occurrence) : List Occurrence :=
  os.filter (pathOf · = some path)

theorem found_ne_nil_iff {path : String} {os : List Occurrence} :
    found path os ≠ [] ↔ path ∈ os.filterMap pathOf := by
  rw [found, ne_eq, List.filter_eq_nil_iff, List.mem_filterMap]
  simp

theorem found_concat_of_eq {path : String} {os : List Occurrence} {o : Occurrence}
    (h : pathOf o = some path) : found path (os ++ [o]) = found path os ++ [o] := by
  simp [found, h]

theorem found_concat_of_ne {path : String} {os : List Occurrence} {o : Occurrence}
    (h : pathOf o ≠ some path) : found path (os ++ [o]) = found path os := by
  simp [found, h]

/-- Build results, downloaded dependencies and images. -/
def LeftOut (path : String) : Prop :=
  (∃ rest, path = "target/" ++ rest) ∨ (∃ rest, path = "root/.m2/" ++ rest) ∨
    ∃ front, path = front ++ ".svg"

theorem leftOut_iff {path : String} :
    (Location.isIgnored path || Location.isDependency path) = true ↔ LeftOut path := by
  rw [Location.isIgnored, Location.isDependency, Bool.or_eq_true, Bool.or_eq_true,
    Text.startsWith_iff, Text.startsWith_iff, Text.endsWith_iff, LeftOut]
  tauto

instance : DecidablePred LeftOut := fun _ => decidable_of_iff _ leftOut_iff

/-- The incident that is listed for an occurrence has all that was reported, with the names and the
descriptions of its own rule set and violation. -/
structure Describes (o : Occurrence) (i : ExtendedIncident) : Prop where
  incident : i.toIncident = o.2.2
  ruleset : o.1.name = some i.ruleset
  rulesetDescription : i.rulesetDescription = some o.1.description
  violation : i.violation = o.2.1.1
  violationDescription : i.violationDescription = some o.2.1.2.description

/-! ## One more occurrence -/

section Gather

variable {files : ImpactedFiles} {o : Occurrence} {path : String}

theorem gather_of_leftOut (hpath : pathOf o = some path) (hout : LeftOut path) :
    gather files o = .ok files := by
  rw [pathOf_eq_some] at hpath
  rw [gather, hpath]
  exact if_pos (leftOut_iff.mpr hout)

theorem gather_of_kept (hpath : pathOf o = some path) (hkept : ¬ LeftOut path) :
    gather files o = (extend o.1 o.2.1 o.2.2).map (files.add path) := by
  rw [pathOf_eq_some] at hpath
  rw [gather, hpath]
  refine (if_neg fun h => hkept (leftOut_iff.mp h)).trans ?_
  cases extend o.1 o.2.1 o.2.2 with
  | error e => rfl
  | ok i => rfl

theorem extend_of_unnamed (hname : o.1.name = none) :
    extend o.1 o.2.1 o.2.2 = .error (.invalidData none) := by
  rw [extend, hname]

theorem exists_extend {name : String} (hname : o.1.name = some name) :
    ∃ i, extend o.1 o.2.1 o.2.2 = .ok i ∧ Describes o i := by
  rw [extend, hname]
  exact ⟨_, rfl, ⟨rfl, hname, rfl, rfl, rfl⟩⟩

/-- What an occurrence can do to the files: none if its file is left out, one incident more if it is
described by it. -/
theorem gather_cases {files' : ImpactedFiles} (h : gather files o = .ok files') :
    ∃ path, pathOf o = some path ∧
      (LeftOut path ∧ files' = files ∨
        ¬ LeftOut path ∧ ∃ i, Describes o i ∧ files' = files.add path i) := by
  obtain ⟨path, hown, -⟩ := Outcome.bind_eq_ok.mp h
  have hpath := pathOf_eq_some.mpr hown
  refine ⟨path, hpath, ?_⟩
  by_cases hout : LeftOut path
  · rw [gather_of_leftOut hpath hout] at h
    exact Or.inl ⟨hout, (Except.ok.inj h).symm⟩
  · rw [gather_of_kept hpath hout] at h
    refine Or.inr ⟨hout, ?_⟩
    cases hname : o.1.name with
    | none =>
      rw [extend_of_unnamed hname] at h
      cases h
    | some name =>
      obtain ⟨i, hextend, hdescribes⟩ := exists_extend hname
      rw [hextend] at h
      exact ⟨i, hdescribes, (Except.ok.inj h).symm⟩

end Gather

/-! ## All occurrences -/

/-- The paths of the files that are listed, one for each occurrence. -/
def keptPaths (os : List Occurrence) : List String :=
  (os.filterMap pathOf).filter (¬ LeftOut ·)

theorem mem_keptPaths {path : String} {os : List Occurrence} :
    path ∈ keptPaths os ↔ found path os ≠ [] ∧ ¬ LeftOut path := by
  rw [keptPaths, List.mem_filter, found_ne_nil_iff, decide_eq_true_eq]

theorem keptPaths_concat {path : String} {os : List Occurrence} {o : Occurrence}
    (hpath : pathOf o = some path) :
    keptPaths (os ++ [o]) = if LeftOut path then keptPaths os else keptPaths os ++ [path] := by
  by_cases hout : LeftOut path
  · simp [keptPaths, hpath, hout]
  · simp [keptPaths, hpath, hout]

theorem eraseDups_concat {ps : List String} {p : String} :
    (ps ++ [p]).eraseDups = if p ∈ ps then ps.eraseDups else ps.eraseDups ++ [p] := by
  rw [List.eraseDups_append]
  by_cases hp : p ∈ ps
  · simp [List.removeAll, hp]
  · simp [List.removeAll, hp, List.eraseDups_cons]

/-- The files of some occurrences, with what is listed for each. -/
structure Arranged (os : List Occurrence) (files : ImpactedFiles) : Prop where
  sound : files.Sound
  /-- Files stand in the order in which they first occur. -/
  paths : files.map Prod.fst = (keptPaths os).eraseDups
  /-- The incidents of a file are its occurrences, one by one. -/
  incidents : ∀ f ∈ files, List.Forall₂ Describes (found f.1 os) f.2

theorem Arranged.mem_paths_iff {os : List Occurrence} {files : ImpactedFiles}
    (h : Arranged os files) {path : String} :
    path ∈ files.map Prod.fst ↔ found path os ≠ [] ∧ ¬ LeftOut path := by
  rw [h.paths, List.mem_eraseDups, mem_keptPaths]

theorem Arranged.gather {os : List Occurrence} {o : Occurrence} {files files' : ImpactedFiles}
    (h : Arranged os files) (hgather : gather files o = .ok files') : Arranged (os ++ [o]) files' := by
  obtain ⟨path, hpath, ⟨hout, rfl⟩ | ⟨hkept, i, hdescribes, rfl⟩⟩ := gather_cases hgather
  · -- no file that is listed is the one of the occurrence
    refine ⟨h.sound, by rw [keptPaths_concat hpath, if_pos hout, h.paths], fun f hf => ?_⟩
    have hlisted := (h.mem_paths_iff.mp (List.mem_map_of_mem hf)).2
    have hother : pathOf o ≠ some f.1 := by
      rw [hpath]
      rintro ⟨⟩
      exact hlisted hout
    rw [found_concat_of_ne hother]
    exact h.incidents f hf
  · have hpaths : path ∈ files.map Prod.fst ↔ path ∈ keptPaths os := by
      rw [h.paths, List.mem_eraseDups]
    constructor
    case sound => exact h.sound.add path i
    case paths =>
      rw [ImpactedFiles.paths_add, keptPaths_concat hpath, if_neg hkept, eraseDups_concat, ← h.paths]
      simp only [hpaths]
    case incidents =>
      intro f hf
      rcases ImpactedFiles.mem_add h.sound.nodup hf with ⟨hf, hne⟩ | ⟨hnew, rfl⟩ | ⟨is, hmem, rfl⟩
      · have hother : pathOf o ≠ some f.1 := by
          rw [hpath]
          exact fun heq => hne (Option.some.inj heq).symm
        rw [found_concat_of_ne hother]
        exact h.incidents f hf
      · -- a file that was not listed has not occurred, since it is not one to be left out
        have hnone : found path os = [] := by
          by_contra hsome
          exact hnew (h.mem_paths_iff.mpr ⟨hsome, hkept⟩)
        rw [found_concat_of_eq hpath, hnone]
        exact .cons hdescribes .nil
      · rw [found_concat_of_eq hpath]
        exact List.rel_append (h.incidents _ hmem) (.cons hdescribes .nil)

/-- Every incident that is not left out belongs to a rule set with a name. -/
def AllNamed (os : List Occurrence) : Prop :=
  ∀ o ∈ os, ∀ path ∈ pathOf o, ¬ LeftOut path → o.1.name ≠ none

instance (os : List Occurrence) : Decidable (AllNamed os) := List.decidableBAll _ os

theorem allNamed_cons {o : Occurrence} {os : List Occurrence} {path : String}
    (hpath : pathOf o = some path) :
    AllNamed (o :: os) ↔ (¬ LeftOut path → o.1.name ≠ none) ∧ AllNamed os := by
  rw [AllNamed, List.forall_mem_cons, hpath]
  simp [AllNamed]

/-- An occurrence is gathered if its file is left out or its rule set has a name. -/
theorem exists_gather {o : Occurrence} {path : String} (hpath : pathOf o = some path)
    (hnamed : ¬ LeftOut path → o.1.name ≠ none) (files : ImpactedFiles) :
    ∃ files', gather files o = .ok files' := by
  by_cases hout : LeftOut path
  · exact ⟨files, gather_of_leftOut hpath hout⟩
  · obtain ⟨name, hname⟩ := Option.ne_none_iff_exists'.mp (hnamed hout)
    obtain ⟨i, hextend, -⟩ := exists_extend hname
    exact ⟨files.add path i, by rw [gather_of_kept hpath hout, hextend]; rfl⟩

theorem foldlM_gather_of_allNamed {os : List Occurrence}
    (hparse : ∀ o ∈ os, (pathOf o).isSome = true) (hnamed : AllNamed os)
    (start : ImpactedFiles) : ∃ files, os.foldlM gather start = .ok files := by
  induction os generalizing start with
  | nil => exact ⟨start, rfl⟩
  | cons o os ih =>
    obtain ⟨hsome, hrest⟩ := List.forall_mem_cons.mp hparse
    obtain ⟨path, hpath⟩ := Option.isSome_iff_exists.mp hsome
    obtain ⟨hhere, hlater⟩ := (allNamed_cons hpath).mp hnamed
    obtain ⟨next, hnext⟩ := exists_gather hpath hhere start
    rw [List.foldlM_cons, hnext]
    exact ih hrest hlater next

/-- Gathering stops at the first occurrence that has no rule set to refer to, whatever comes before
it. -/
theorem foldlM_gather_of_not_allNamed {os : List Occurrence}
    (hparse : ∀ o ∈ os, (pathOf o).isSome = true) (hunnamed : ¬ AllNamed os)
    (start : ImpactedFiles) : os.foldlM gather start = .error (.invalidData none) := by
  induction os generalizing start with
  | nil => exact absurd (fun o ho => (List.not_mem_nil ho).elim) hunnamed
  | cons o os ih =>
    obtain ⟨hsome, hrest⟩ := List.forall_mem_cons.mp hparse
    obtain ⟨path, hpath⟩ := Option.isSome_iff_exists.mp hsome
    rw [allNamed_cons hpath] at hunnamed
    rw [List.foldlM_cons]
    by_cases hhere : ¬ LeftOut path → o.1.name ≠ none
    · -- this one is gathered, so the one without a name comes later
      obtain ⟨next, hnext⟩ := exists_gather hpath hhere start
      rw [hnext]
      exact ih hrest (fun hlater => hunnamed ⟨hhere, hlater⟩) next
    · rw [Classical.not_imp, not_not] at hhere
      rw [gather_of_kept hpath hhere.1, extend_of_unnamed hhere.2]
      rfl

theorem arranged_of_ok {report : Report} {files : ImpactedFiles}
    (h : report.impactedFiles = .ok files) : Arranged report.occurrences files :=
  impactedFiles_induction (motive := Arranged) ⟨⟨List.nodup_nil, by simp⟩, rfl, by simp⟩
    Arranged.gather h

/-- The files of a report of which all addresses have a path: each that occurs and is not left out, in
order of first occurrence, with what is reported for it in order. They are listed exactly if every
incident in them belongs to a rule set with a name. -/
theorem impactedFiles_arranged {report : Report}
    (hparse : ∀ o ∈ report.occurrences, (pathOf o).isSome = true) :
    (AllNamed report.occurrences → ∃ files, report.impactedFiles = .ok files ∧
        Arranged report.occurrences files ∧
        ∀ path, path ∈ files.map Prod.fst ↔ found path report.occurrences ≠ [] ∧ ¬ LeftOut path) ∧
      (¬ AllNamed report.occurrences → report.impactedFiles = .error (.invalidData none)) := by
  refine ⟨fun hnamed => ?_, fun hunnamed => foldlM_gather_of_not_allNamed hparse hunnamed []⟩
  obtain ⟨files, hfiles⟩ := foldlM_gather_of_allNamed hparse hnamed []
  have harranged := arranged_of_ok hfiles
  exact ⟨files, hfiles, harranged, fun _ => harranged.mem_paths_iff⟩

/-- Two rule sets of which the second has no name. What it reports is in a dependency only, and the
files of the first alternate. -/
def mixedReport : Report :=
  { id := "r"
    rulesets :=
      [{ name := some "quarkus", description := "q",
         violations :=
          [("imports", { description := "i", incidents :=
              [{ uri := "file:///tmp/source-code/B.java", message := "first", line := 3 },
               { uri := "file:///A.java", message := "second" },
               { uri := "file:///target/A.class", message := "third" }] }),
           ("beans", { incidents := [{ uri := "file:///B.java", message := "fourth" }] })] },
       { violations :=
          [("jars", { incidents := [{ uri := "file:///root/.m2/a.jar", message := "fifth" }] })] }] }

theorem impactedFiles_arranged_mixed :
    (∀ o ∈ mixedReport.occurrences, (pathOf o).isSome = true) ∧ AllNamed mixedReport.occurrences ∧
      ∃ files, mixedReport.impactedFiles = .ok files ∧ files.map Prod.fst = ["B.java", "A.java"] ∧
        ∀ f ∈ files, List.Forall₂ Describes (found f.1 mixedReport.occurrences) f.2 := by
  have hparse : ∀ o ∈ mixedReport.occurrences, (pathOf o).isSome = true := by decide
  have hnamed : AllNamed mixedReport.occurrences := by decide
  obtain ⟨files, hfiles, harranged, -⟩ := (impactedFiles_arranged hparse).1 hnamed
  have hkept : keptPaths mixedReport.occurrences = ["B.java", "A.java", "B.java"] := by decide
  have hpaths := harranged.paths
  rw [hkept] at hpaths
  exact ⟨hparse, hnamed, files, hfiles, hpaths.trans (by decide), harranged.incidents⟩

/-- A rule set without a name whose incident is in a file of the application. -/
def unnamedReport : Report :=
  { id := "r"
    rulesets :=
      [{ violations := [("v", { incidents := [{ uri := "file:///A.java", message := "m" }] })] }] }

theorem unnamed_ruleset_not_listed :
    (∀ o ∈ unnamedReport.occurrences, pathOf o = some "A.java") ∧ ¬ LeftOut "A.java" ∧
      unnamedReport.impactedFiles = .error (.invalidData none) := by
  decide

end Report

end Remedy
