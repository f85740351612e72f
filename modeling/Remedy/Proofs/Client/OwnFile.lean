import Remedy.Proofs.Client.Requested
import Remedy.Proofs.Report.Loading
import Remedy.Proofs.Report.Location

/-!
# The file that a request means

A request that names a report does not say which of its files is meant. The files are gone through in
the order of the report, and the first counts whose path ends the path of the request. Paths end one
another in two ways that have nothing to do with the file that is meant: a path may be the last part of
another, by whole names or by letters only, and the directory of the request may end with the
directories of another file. So a request can be given the incidents of a file that it does not mean,
and whether it is depends on which of the two files the report mentions first.

Main results:

* `Text.endsWith_below_iff`: which texts end a path below a directory.
* `Report.paths_eq_of_incidents`: two files of a report have the same incidents only if they are one.
* `requested_asking`: a request is given the incidents of the first file whose path ends its own.
* `own_incidents_used_iff`: when a request is given the incidents of the file that it means.
-/

namespace Remedy

open Remedy.Action

/-! ## Ends of paths -/

namespace Text

/-- A text ends a path below a directory if it ends the path, or if the whole path is the end of the
text and what stands before it ends the directory. -/
theorem endsWith_below_iff {d k f : String} :
    endsWith (d ++ "/" ++ k) f = true ↔
      endsWith k f = true ∨ ∃ t, endsWith d t = true ∧ f = t ++ "/" ++ k := by
  have hslash : ∀ t : String, (t ++ "/" ++ k).toList = t.toList ++ '/' :: k.toList := by
    intro t
    simp
  unfold endsWith
  simp only [List.isSuffixOf_iff_suffix, hslash]
  constructor
  · intro hends
    have hk : '/' :: k.toList <:+ d.toList ++ '/' :: k.toList := List.suffix_append _ _
    rcases List.suffix_or_suffix_of_suffix hends hk with hshort | ⟨t, hlong⟩
    · -- the text ends the slash and the path: it may be both of them
      rcases List.suffix_cons_iff.mp hshort with hall | hrest
      · refine Or.inr ⟨"", List.nil_suffix, ?_⟩
        rw [← String.toList_inj, hslash, hall]
        rfl
      · exact Or.inl hrest
    · refine Or.inr ⟨String.ofList t, ?_, ?_⟩
      · rw [String.toList_ofList]
        rw [← hlong] at hends
        exact List.suffix_append_self_iff.mp hends
      · rw [← String.toList_inj, hslash, String.toList_ofList, hlong]
  · rintro (hends | ⟨t, ht, rfl⟩)
    · exact hends.trans ((List.suffix_cons _ _).trans (List.suffix_append _ _))
    · rw [hslash]
      exact List.suffix_append_self_iff.mpr ht

theorem endsWith_below_self (d k : String) : endsWith (d ++ "/" ++ k) k = true := by
  rw [endsWith_below_iff, endsWith_iff]
  exact Or.inl ⟨"", by simp⟩

/-- A text ends no path `k` below any directory if it neither ends `k` nor ends with `/k`. -/
theorem forall_endsWith_below_iff {k f : String} :
    (∀ d, endsWith (d ++ "/" ++ k) f = false) ↔
      endsWith k f = false ∧ endsWith f ("/" ++ k) = false := by
  simp only [Bool.eq_false_iff, ne_eq, endsWith_below_iff, not_or, not_exists, not_and]
  constructor
  · intro hall
    refine ⟨(hall "").1, fun hends => ?_⟩
    -- what stands before `/k` in the text is a directory below which the path is the text
    obtain ⟨t, ht⟩ := endsWith_iff.mp hends
    refine (hall t).2 t (endsWith_iff.mpr ⟨"", by simp⟩) ?_
    rw [ht, String.append_assoc]
  · rintro ⟨hshort, hlong⟩ d
    refine ⟨hshort, fun t _ heq => hlong (endsWith_iff.mpr ⟨t, ?_⟩)⟩
    rw [heq, String.append_assoc]

end Text

/-! ## Files and their incidents -/

/-- Two files of a report have the same incidents only if they are one: each has an incident, and the
address of an incident leads to one path. -/
theorem Report.paths_eq_of_incidents {report : Report} {files : ImpactedFiles}
    (h : report.impactedFiles = .ok files) {f g : String × List ExtendedIncident} (hf : f ∈ files)
    (hg : g ∈ files) (hsame : f.2 = g.2) : f.1 = g.1 := by
  obtain ⟨i, hi⟩ := List.exists_mem_of_ne_nil _ ((impactedFiles_sound h).nonempty f hf)
  have hpath := ofUri_of_lists h ⟨f, hf, rfl, hi⟩
  have hpath' := ofUri_of_lists h ⟨g, hg, rfl, hsame ▸ hi⟩
  exact Except.ok.inj (hpath.symm.trans hpath')

namespace Client

open Rpc (Params)

/-! ## Requests -/

variable {read : String → Option Json}

/-- The request for the file at a path. -/
def withInput (p : Params) (input : String) : Params :=
  ⟨p.data.set "input_file_path" (.str input)⟩

/-- The request for the file at a path, with a report. -/
def asking (p : Params) (report input : String) : Params :=
  withReport (withInput p input) report

/-- How a request is prepared does not depend on the file. -/
theorem prepare_withInput (around : Surroundings) (p : Params) (input : String) :
    prepare around (withInput p input) = prepare around p := by
  unfold prepare logFor textParam withInput
  rw [value_set, value_set, if_neg (by decide), if_neg (by decide)]

/-- A request is given the incidents of the first file of the report whose path ends its own. -/
theorem requested_asking {p : Params} {h : Host} {path input : String} {files : ImpactedFiles}
    {f : String × List ExtendedIncident} (hplain : (p.value "incidents").isSet = false)
    (hfiles : ((impactedFiles read path).exec h).1 = .ok files)
    (hfirst : files.find? (fun g => Text.endsWith input g.1) = some f) :
    (requested read (asking p path input)).exec h = (.ok (.reported f.2), h) := by
  have hnone : ((withInput p input).value "incidents").isSet = false := by
    rw [withInput, value_set, if_neg (by decide)]
    exact hplain
  have hinput : (withInput p input).value "input_file_path" = .str input := by
    rw [withInput, value_set, if_pos rfl]
  exact requested_of_find? hnone hinput hfiles hfirst

/-- The files of a report are those of the data that is read at its path. -/
theorem impactedFiles_of_read {path content : String} {h : Host} {data : Json}
    (hread : ((Host.read path).exec h).1 = .ok content) (hparse : read content = some data) :
    ((impactedFiles read path).exec h).1 =
      (Report.ofJson (Report.digest data) data >>= Report.impactedFiles) := by
  rw [Host.read, exec_bind, Host.locate_exec] at hread
  unfold impactedFiles
  rw [exec_bind, Host.locate_exec]
  cases hpath : path.isEmpty with
  | true =>
    rw [hpath] at hread
    cases hread
  | false =>
    rw [hpath] at hread
    show (Report.ofFile read h.files (Path.join h.workingDirectory path) >>= Report.impactedFiles) = _
    rw [Report.ofFile_of_holds ⟨content, hread, hparse⟩]

section OwnFile

variable {before after : ImpactedFiles} {k d : String} {own : List ExtendedIncident}

/-- The first file whose path ends that of a request for a file is the file itself, if no path before
it does. -/
theorem find?_below_of_none (hnone : ∀ g ∈ before, Text.endsWith (d ++ "/" ++ k) g.1 = false) :
    (before ++ (k, own) :: after).find? (fun g => Text.endsWith (d ++ "/" ++ k) g.1) =
      some (k, own) := by
  rw [List.find?_eq_some_iff_append]
  refine ⟨Text.endsWith_below_self d k, before, after, rfl, fun g hg => ?_⟩
  rw [hnone g hg]
  rfl

/-- Otherwise it is one of those before it. -/
theorem exists_find?_below (hsome : ∃ g ∈ before, Text.endsWith (d ++ "/" ++ k) g.1 = true) :
    ∃ g ∈ before, (before ++ (k, own) :: after).find?
      (fun g => Text.endsWith (d ++ "/" ++ k) g.1) = some g := by
  obtain ⟨g, hg⟩ := Option.isSome_iff_exists.mp (List.find?_isSome.mpr hsome)
  refine ⟨g, List.mem_of_find?_eq_some hg, ?_⟩
  rw [List.find?_append, hg]
  rfl

/-- The request for a file below a directory is given the incidents of some file of the report, and
those of the file itself exactly if no path before it ends the one of the request. -/
theorem exists_requested_below {p : Params} {h : Host} {path : String}
    (hplain : (p.value "incidents").isSet = false)
    (hfiles : ((impactedFiles read path).exec h).1 = .ok (before ++ (k, own) :: after)) (d : String) :
    ∃ used,
      (requested read (asking p path (d ++ "/" ++ k))).exec h = (.ok (.reported used), h) ∧
      (used = own ↔ ∀ f ∈ before, Text.endsWith (d ++ "/" ++ k) f.1 = false) := by
  obtain ⟨-, report, hreport⟩ := report_of_impactedFiles hfiles
  -- a file before `k` has another path, and so it has other incidents
  have hother : ∀ f ∈ before, f.2 ≠ own := by
    intro f hf hsame
    have hpath : f.1 = k := Report.paths_eq_of_incidents hreport
      (List.mem_append_left _ hf) (List.mem_append_right _ List.mem_cons_self) hsame
    have hnodup := (Report.impactedFiles_sound hreport).nodup
    rw [List.map_append, List.nodup_append] at hnodup
    exact hnodup.2.2 f.1 (List.mem_map_of_mem hf) k List.mem_cons_self hpath
  by_cases hsome : ∃ g ∈ before, Text.endsWith (d ++ "/" ++ k) g.1 = true
  · obtain ⟨g, hg, hfirst⟩ := @exists_find?_below before after k d own hsome
    refine ⟨g.2, requested_asking hplain hfiles hfirst, iff_of_false (hother g hg) ?_⟩
    obtain ⟨g', hg', hends⟩ := hsome
    intro hnone
    rw [hnone g' hg'] at hends
    cases hends
  · have hnone : ∀ g ∈ before, Text.endsWith (d ++ "/" ++ k) g.1 = false := by
      intro g hg
      exact Bool.eq_false_iff.mpr fun hends => hsome ⟨g, hg, hends⟩
    have hfirst := @find?_below_of_none before after k d own hnone
    exact ⟨own, requested_asking hplain hfiles hfirst, iff_of_true rfl hnone⟩

end OwnFile

/-- **When a request is given the incidents of the file that it means.** The request has no
incidents of its own, has been prepared, and names a report in which the file at `k` comes after
some others. For every directory `d`, the request for `d/k` is given the incidents of one file of
the report, and all that is done for it is done with these; they are those of `k` if and only if no
file before it has a path that ends `d/k`. They are those of `k` whatever the directory is if and
only if no path before `k` ends `k` or ends with `/k`. -/
theorem own_incidents_used_iff {around : Surroundings} {p : Params} {s s₁ : Service}
    {setup : ServiceSetup} {path k : String} {before after : ImpactedFiles}
    {own : List ExtendedIncident} (hplain : (p.value "incidents").isSet = false)
    (hprepared : (prepare around p).exec s = (.ok setup, s₁))
    (hfiles : ((impactedFiles around.reader path).exec s₁.host).1 = .ok (before ++ (k, own) :: after)) :
    (∀ d, ∃ used,
      (requested around.reader (asking p path (d ++ "/" ++ k))).exec s₁.host =
        (.ok (.reported used), s₁.host) ∧
      (solve around (asking p path (d ++ "/" ++ k))).exec s =
        (commence around (withInput p (d ++ "/" ++ k)) >>=
          fun b => b.complete (.reported used)).exec s ∧
      (used = own ↔ ∀ f ∈ before, Text.endsWith (d ++ "/" ++ k) f.1 = false)) ∧
    ((∀ d, (requested around.reader (asking p path (d ++ "/" ++ k))).exec s₁.host =
        (.ok (.reported own), s₁.host)) ↔
      ∀ f ∈ before, Text.endsWith k f.1 = false ∧ Text.endsWith f.1 ("/" ++ k) = false) := by
  have hused := exists_requested_below hplain hfiles
  constructor
  · intro d
    obtain ⟨used, hrequested, hiff⟩ := hused d
    refine ⟨used, hrequested, ?_, hiff⟩
    refine solve_set_exec (by decide) fun setup' s' hprepared' => ?_
    rw [prepare_withInput, hprepared] at hprepared'
    cases hprepared'
    exact hrequested
  · have hgiven : ∀ d, (requested around.reader (asking p path (d ++ "/" ++ k))).exec s₁.host =
        (.ok (.reported own), s₁.host) ↔
          ∀ f ∈ before, Text.endsWith (d ++ "/" ++ k) f.1 = false := by
      intro d
      obtain ⟨used, hrequested, hiff⟩ := hused d
      rw [hrequested, ← hiff]
      simp
    simp only [hgiven, ← Text.forall_endsWith_below_iff]
    exact ⟨fun hall f hf d => hall d f hf, fun hall d f hf => hall f hf d⟩

/-! ## Two files of one name -/

/-- The incident that is reported in a file. -/
def reportedIn (path : String) : ExtendedIncident :=
  { plainReported with uri := "file:///" ++ path, message := path }

/-- The data of a report on some files, in the given order. -/
def reportOn (paths : List String) : Json :=
  .arr [.obj [("name", .str "r"), ("violations", .obj [("x", .obj [("incidents", .arr
    (paths.map fun path => .obj [("uri", .str ("file:///" ++ path)), ("message", .str path)]))])])]]

/-- Three reports: on two files of one name, in both orders, and on two files of which the name of one
ends that of the other. -/
def reports : List (String × List String) :=
  [("/long.yaml", ["src/A", "A"]), ("/short.yaml", ["A", "src/A"]), ("/letters.yaml", ["A", "XA"])]

/-- A host with a configuration and the reports. -/
def reportingHost : Host :=
  { plainHost with
    files.files := plainHost.files.files ++ reports.map fun r =>
      (FileTree.parts r.1, Json.render Json.spaced (reportOn r.2)) }

theorem reporting_prepared :
    ((prepare plainAround plainParams).exec { host := reportingHost }).1.toBool = true ∧
    ∀ r ∈ reports, ((Host.read r.1).exec
      ((prepare plainAround plainParams).exec { host := reportingHost }).2.host).1 =
        .ok (Json.render Json.spaced (reportOn r.2)) := by
  decide +kernel

theorem exists_reporting_prepared :
    ∃ setup s₁, (prepare plainAround plainParams).exec { host := reportingHost } = (.ok setup, s₁) := by
  have hok := reporting_prepared.1
  rcases hprepared : (prepare plainAround plainParams).exec { host := reportingHost } with
    ⟨e | setup, s₁⟩
  · rw [hprepared] at hok
    cases hok
  · exact ⟨setup, s₁, rfl⟩

/-- The report on some files lists each with its incident. -/
theorem reporting_files {setup : ServiceSetup} {s₁ : Service} {r : String × List String}
    (h : (prepare plainAround plainParams).exec { host := reportingHost } = (.ok setup, s₁))
    (hr : r ∈ reports) :
    ((impactedFiles plainAround.reader r.1).exec s₁.host).1 =
      .ok (r.2.map fun path => (path, [reportedIn path])) := by
  have hread := reporting_prepared.2 r hr
  have hlisted : ∀ r ∈ reports, (reportOn r.2).proper = true ∧
      (Report.ofJson (Report.digest (reportOn r.2)) (reportOn r.2) >>= Report.impactedFiles) =
        .ok (r.2.map fun path => (path, [reportedIn path])) := by
    decide +kernel
  rw [h] at hread
  have hreader : plainAround.reader = Json.parse? := rfl
  rw [hreader,
    impactedFiles_of_read hread (Json.parse?_render Json.readable_spaced (hlisted r hr).1)]
  exact (hlisted r hr).2

/-- The file of the longer path is reported first: a request for the other is given its own incidents
below most directories, but not below one with the same name. -/
theorem own_incidents_used_below_app :
    ∃ setup s₁, (prepare plainAround plainParams).exec { host := reportingHost } =
        (.ok setup, s₁) ∧
      (requested plainAround.reader (asking plainParams "/long.yaml" "/app/A")).exec s₁.host =
        (.ok (.reported [reportedIn "A"]), s₁.host) ∧
      ∃ used, (requested plainAround.reader
          (asking plainParams "/long.yaml" "/app/src/A")).exec s₁.host =
        (.ok (.reported used), s₁.host) ∧ used ≠ [reportedIn "A"] := by
  obtain ⟨setup, s₁, hprepared⟩ := exists_reporting_prepared
  have hlisted : ((impactedFiles plainAround.reader "/long.yaml").exec s₁.host).1 =
      .ok ([("src/A", [reportedIn "src/A"])] ++ ("A", [reportedIn "A"]) :: []) :=
    reporting_files (r := ("/long.yaml", ["src/A", "A"])) hprepared (by decide)
  have hused := (own_incidents_used_iff rfl hprepared hlisted).1
  obtain ⟨used, hown, -, hiff⟩ := hused "/app"
  obtain ⟨used', hother, -, hiff'⟩ := hused "/app/src"
  rw [hiff.mpr (by decide)] at hown
  exact ⟨setup, s₁, hprepared, hown, used', hother, fun hsame => absurd (hiff'.mp hsame) (by decide)⟩

/-- What a request for a file is given when it names a report. -/
def given (report input : String) : Action Service Requested :=
  prepare plainAround plainParams >>= fun _ =>
    Service.onHost (requested plainAround.reader (asking plainParams report input))

theorem given_exec {r : String × List String} {input : String} {f : String × List ExtendedIncident}
    (hr : r ∈ reports) (hfirst : (r.2.map fun path => (path, [reportedIn path])).find?
      (fun g => Text.endsWith input g.1) = some f) :
    ((given r.1 input).exec { host := reportingHost }).1 = .ok (.reported f.2) := by
  obtain ⟨setup, s₁, hprepared⟩ := exists_reporting_prepared
  have hgiven := requested_asking (p := plainParams) rfl (reporting_files hprepared hr) hfirst
  rw [given, exec_bind_of_ok hprepared, Service.onHost_exec, hgiven]

/-- The same request and the same two files: which comes first decides whose incidents are given. The
name of the other file may also be an end of the name. -/
theorem other_file_used :
    ((given "/long.yaml" "/app/src/A").exec { host := reportingHost }).1 =
      .ok (.reported [reportedIn "src/A"]) ∧
    ((given "/short.yaml" "/app/src/A").exec { host := reportingHost }).1 =
      .ok (.reported [reportedIn "A"]) ∧
    ((given "/letters.yaml" "/app/XA").exec { host := reportingHost }).1 =
      .ok (.reported [reportedIn "A"]) := by
  refine ⟨?_, ?_, ?_⟩
  · exact given_exec (r := ("/long.yaml", ["src/A", "A"])) (f := ("src/A", [reportedIn "src/A"]))
      (by decide) (by decide)
  · exact given_exec (r := ("/short.yaml", ["A", "src/A"])) (f := ("A", [reportedIn "A"]))
      (by decide) (by decide)
  · exact given_exec (r := ("/letters.yaml", ["A", "XA"])) (f := ("A", [reportedIn "A"]))
      (by decide) (by decide)

end Client

end Remedy
