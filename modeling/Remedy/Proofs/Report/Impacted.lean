import Remedy.Proofs.Action
import Remedy.Report.Impacted
import Mathlib.Data.List.Nodup

/-!
# The files of a report

The incidents of a report are gathered one after the other, each under the path of its file. A file is
listed once, at the place where it first occurs, and what is listed for it are the incidents whose
addresses lead to its path, but for those that are left out.

Main results:

* `Report.impactedFiles_induction`: what each occurrence keeps holds of the files of a report.
* `Report.impactedFiles_sound`: a report lists no file twice, and each with at least one incident.
* `Report.lists_iff`: which incidents a report lists under which path.
* `Report.ofUri_of_lists`: that path is the one of the address of the incident.
-/

namespace Remedy

namespace ImpactedFiles

/-- No file is listed twice, and each has an incident. -/
structure Sound (files : ImpactedFiles) : Prop where
  nodup : (files.map Prod.fst).Nodup
  nonempty : ∀ f ∈ files, f.2 ≠ []

theorem mem_paths_add {files : ImpactedFiles} {path k : String} {i : ExtendedIncident} :
    k ∈ (files.add path i).map Prod.fst ↔ k ∈ files.map Prod.fst ∨ k = path := by
  induction files with
  | nil => simp [add]
  | cons f rest ih =>
    obtain ⟨p, is⟩ := f
    rw [add]
    split
    · rename_i h
      subst h
      simp only [List.map_cons, List.mem_cons]
      tauto
    · simp only [List.map_cons, List.mem_cons, ih]
      tauto

theorem Sound.add {files : ImpactedFiles} (h : files.Sound) (path : String) (i : ExtendedIncident) :
    (files.add path i).Sound := by
  induction files with
  | nil => exact ⟨by simp [ImpactedFiles.add], by simp [ImpactedFiles.add]⟩
  | cons f rest ih =>
    obtain ⟨p, is⟩ := f
    obtain ⟨hnodup, hnonempty⟩ := h
    rw [List.map_cons, List.nodup_cons] at hnodup
    have hrest := ih ⟨hnodup.2, fun g hg => hnonempty g (List.mem_cons_of_mem _ hg)⟩
    rw [ImpactedFiles.add]
    split
    · -- the file is there already: its incidents grow, and the paths stay
      refine ⟨by rw [List.map_cons, List.nodup_cons]; exact hnodup, fun g hg => ?_⟩
      rcases List.mem_cons.mp hg with rfl | hg
      · simp
      · exact hnonempty g (List.mem_cons_of_mem _ hg)
    · rename_i hne
      constructor
      · rw [List.map_cons, List.nodup_cons, mem_paths_add]
        exact ⟨fun hmem => hmem.elim hnodup.1 hne, hrest.nodup⟩
      · intro g hg
        rcases List.mem_cons.mp hg with rfl | hg
        · exact hnonempty _ List.mem_cons_self
        · exact hrest.nonempty g hg

/-- The one file that is looked for is found: no other has its path. -/
theorem Sound.find?_eq {files : ImpactedFiles} (h : files.Sound)
    {f : String × List ExtendedIncident} (hf : f ∈ files)
    {wanted : String × List ExtendedIncident → Bool} (hwanted : wanted f = true)
    (honly : ∀ g ∈ files, wanted g = true → g.1 = f.1) : files.find? wanted = some f := by
  cases hfound : files.find? wanted with
  | none => exact absurd hwanted (List.find?_eq_none.mp hfound f hf)
  | some g =>
    have hg := List.mem_of_find?_eq_some hfound
    rw [List.inj_on_of_nodup_map h.nodup hg hf (honly g hg (List.find?_some hfound))]

/-- An incident is listed under a path. -/
def Lists (files : ImpactedFiles) (path : String) (i : ExtendedIncident) : Prop :=
  ∃ f ∈ files, f.1 = path ∧ i ∈ f.2

theorem not_lists_nil (path : String) (i : ExtendedIncident) : ¬ Lists [] path i := by
  rintro ⟨f, hf, -⟩
  cases hf

theorem lists_cons {f : String × List ExtendedIncident} {rest : ImpactedFiles} {path : String}
    {i : ExtendedIncident} :
    Lists (f :: rest) path i ↔ f.1 = path ∧ i ∈ f.2 ∨ Lists rest path i := by
  simp only [Lists, List.exists_mem_cons_iff]

/-- Adding an incident lists it under its path, and changes nothing else that is listed. -/
theorem lists_add {files : ImpactedFiles} {path k : String} {i j : ExtendedIncident} :
    (files.add path i).Lists k j ↔ files.Lists k j ∨ k = path ∧ j = i := by
  induction files with
  | nil =>
    rw [add, lists_cons, List.mem_singleton, or_iff_left (not_lists_nil k j),
      or_iff_right (not_lists_nil k j), eq_comm]
  | cons f rest ih =>
    obtain ⟨p, is⟩ := f
    rw [add]
    split
    · rename_i h
      subst h
      rw [lists_cons, lists_cons, List.mem_append, List.mem_singleton, eq_comm]
      tauto
    · rw [lists_cons, lists_cons, ih, or_assoc]

end ImpactedFiles

namespace Report

theorem gather_sound {files files' : ImpactedFiles}
    {occurrence : RuleSet × (String × Violation) × Incident} (hsound : files.Sound)
    (h : gather files occurrence = .ok files') : files'.Sound := by
  obtain ⟨path, -, h⟩ := Outcome.bind_eq_ok.mp h
  split at h
  · cases h
    exact hsound
  · obtain ⟨i, -, h⟩ := Outcome.bind_eq_ok.mp h
    cases h
    exact hsound.add path i

/-- What holds of no files and is kept by each occurrence holds of the files of a report. -/
theorem impactedFiles_induction
    {motive : List (RuleSet × (String × Violation) × Incident) → ImpactedFiles → Prop}
    (none : motive [] [])
    (more : ∀ {gathered occurrence files files'}, motive gathered files →
      gather files occurrence = .ok files' → motive (gathered ++ [occurrence]) files')
    {report : Report} {files : ImpactedFiles} (h : report.impactedFiles = .ok files) :
    motive report.occurrences files := by
  unfold impactedFiles at h
  -- from any occurrence on, with those before it gathered
  have hfrom : ∀ (rest gathered : List (RuleSet × (String × Violation) × Incident))
      (start : ImpactedFiles), motive gathered start → rest.foldlM gather start = .ok files →
      motive (gathered ++ rest) files := by
    intro rest
    induction rest with
    | nil =>
      intro gathered start hstart hok
      cases hok
      rwa [List.append_nil]
    | cons occurrence rest ih =>
      intro gathered start hstart hok
      rw [List.foldlM_cons] at hok
      obtain ⟨next, hnext, hok⟩ := Outcome.bind_eq_ok.mp hok
      have hall := ih (gathered ++ [occurrence]) next (more hstart hnext) hok
      rwa [List.append_assoc, List.singleton_append] at hall
  exact hfrom report.occurrences [] [] none h

theorem impactedFiles_sound {report : Report} {files : ImpactedFiles}
    (h : report.impactedFiles = .ok files) : files.Sound :=
  impactedFiles_induction (motive := fun _ files => files.Sound) ⟨List.nodup_nil, by simp⟩
    gather_sound h

/-- The incident is reported for the file at the path, and the file is not left out. -/
def Reports (occurrence : RuleSet × (String × Violation) × Incident) (path : String)
    (i : ExtendedIncident) : Prop :=
  Location.ofUri occurrence.2.2.uri = .ok path ∧
    (Location.isIgnored path || Location.isDependency path) = false ∧
    extend occurrence.1 occurrence.2.1 occurrence.2.2 = .ok i

theorem Reports.uri_eq {occurrence : RuleSet × (String × Violation) × Incident} {path : String}
    {i : ExtendedIncident} (h : Reports occurrence path i) : i.uri = occurrence.2.2.uri := by
  obtain ⟨-, -, hextend⟩ := h
  rw [extend] at hextend
  cases hname : occurrence.1.name with
  | none => simp [hname] at hextend
  | some name =>
    rw [hname] at hextend
    cases hextend
    rfl

/-- One more occurrence lists what it reports. -/
theorem gather_lists {files files' : ImpactedFiles}
    {occurrence : RuleSet × (String × Violation) × Incident}
    (h : gather files occurrence = .ok files') (path : String) (i : ExtendedIncident) :
    files'.Lists path i ↔ files.Lists path i ∨ Reports occurrence path i := by
  obtain ⟨own, hown, h⟩ := Outcome.bind_eq_ok.mp h
  have hpath : ∀ {path}, Location.ofUri occurrence.2.2.uri = .ok path → path = own :=
    fun hp => Except.ok.inj (hp.symm.trans hown)
  split at h
  · -- the file is left out
    rename_i hout
    cases h
    refine (or_iff_left ?_).symm
    rintro ⟨hp, hkept, -⟩
    rw [hpath hp, hout] at hkept
    cases hkept
  · rename_i hkept
    obtain ⟨own', hextend, h⟩ := Outcome.bind_eq_ok.mp h
    cases h
    rw [ImpactedFiles.lists_add]
    refine or_congr_right ⟨?_, ?_⟩
    · rintro ⟨rfl, rfl⟩
      exact ⟨hown, by simpa using hkept, hextend⟩
    · rintro ⟨hp, -, hextend'⟩
      exact ⟨hpath hp, Except.ok.inj (hextend'.symm.trans hextend)⟩

/-- A report lists exactly what its occurrences report. -/
theorem lists_iff {report : Report} {files : ImpactedFiles} (h : report.impactedFiles = .ok files)
    (path : String) (i : ExtendedIncident) :
    files.Lists path i ↔ ∃ occurrence ∈ report.occurrences, Reports occurrence path i := by
  refine impactedFiles_induction (motive := fun gathered files => files.Lists path i ↔
    ∃ occurrence ∈ gathered, Reports occurrence path i) ?_ ?_ h
  · simp [ImpactedFiles.not_lists_nil]
  · intro gathered occurrence files files' hsofar hnext
    rw [gather_lists hnext, hsofar]
    simp [or_and_right, exists_or]

/-- The path under which an incident is listed is the one that its address leads to. -/
theorem ofUri_of_lists {report : Report} {files : ImpactedFiles}
    (h : report.impactedFiles = .ok files) {path : String} {i : ExtendedIncident}
    (hlisted : files.Lists path i) : Location.ofUri i.uri = .ok path := by
  obtain ⟨occurrence, -, hreports⟩ := (lists_iff h path i).mp hlisted
  rw [hreports.uri_eq]
  exact hreports.1

end Report

end Remedy
