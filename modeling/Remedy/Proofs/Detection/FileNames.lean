import Remedy.Proofs.Detection.Conservation
import Remedy.Proofs.Report.Impacted
import Remedy.Proofs.Report.Location
import Remedy.Proofs.Solution.Producer

/-!
# The file of an incident

Three parts of the program name the file that an incident is in. Detection asks the repository for it
by the path under which it is checked out, production of a solution by the path inside the
application, and a report lists it under the path inside the application with its escapes as they are.
Here it is shown what each of the three asks or lists in all cases, and when the names agree.

Main results:

* `isKept_snd`, `lineMatch_asks`: all that detection asks of the repository.
* `one_file_iff`: the three names, and when they are the same.
-/

namespace Remedy

open Remedy.Action

namespace Detection

/-! ## What detection asks -/

/-- The questions about the two versions of a file. The new version is asked for only if there is an
old one. -/
def versionsAsked (s : Setting) (file : String) : List GitCall :=
  .content (Repository.fileAt s.oldCommit file) ::
    if (s.repo.content? (Repository.fileAt s.oldCommit file)).isSome then
      [.content (Repository.fileAt s.newCommit file)]
    else []

/-- The questions about an incident: none if its address cannot be read. -/
def questions (s : Setting) (row : IncidentRow) : List GitCall :=
  (Location.ofEscapedUri row.uri).toOption.elim [] fun file =>
    versionsAsked s (Path.join s.repo.directory file)

theorem content_exec_of_none {repo : Repository} {what : String} (h : repo.content? what = none)
    (calls : List GitCall) :
    (repo.content what).exec calls = (.error .git, calls ++ [.content what]) := by
  rw [Repository.content, exec_ofExec, h]

/-- What is asked about an incident, whatever comes of it. -/
theorem isKept_snd (s : Setting) (row : IncidentRow) (calls : List GitCall) :
    ((isKept s row).exec calls).2 = calls ++ questions s row := by
  rw [isKept, questions]
  cases Location.ofEscapedUri row.uri with
  | error e =>
    rw [exec_bind_of_error (exec_ofOutcome ..)]
    exact (List.append_nil calls).symm
  | ok file =>
    rw [exec_bind_of_ok (exec_ofOutcome ..)]
    show _ = calls ++ versionsAsked s (Path.join s.repo.directory file)
    cases hold : s.repo.content?
        (Repository.fileAt s.oldCommit (Path.join s.repo.directory file)) with
    | none =>
      rw [exec_bind_of_error (content_exec_of_none hold calls), versionsAsked, hold]
      rfl
    | some oldText =>
      rw [exec_bind_of_ok (content_exec_of_some hold calls), versionsAsked, hold]
      -- the new version has been asked for whether it is there or not, and parsing asks nothing
      cases hnew : s.repo.content?
          (Repository.fileAt s.newCommit (Path.join s.repo.directory file)) with
      | none =>
        rw [exec_bind_of_error (content_exec_of_none hnew _), List.append_assoc]
        rfl
      | some newText =>
        rw [exec_bind_of_ok (content_exec_of_some hnew _), List.append_assoc]
        cases s.source.parse oldText with
        | error e => rfl
        | ok oldTree =>
          cases s.source.parse newText with
          | error e => rfl
          | ok newTree => rfl

/-- One new incident is asked about at most once. -/
theorem matchMoved_snd (s : Setting) (p : Progress) (row : IncidentRow) (calls : List GitCall) :
    ((matchMoved s p row).exec calls).2 = calls ∨
      ((matchMoved s p row).exec calls).2 = calls ++ questions s row := by
  rw [matchMoved]
  cases p.groups.lookup row.placeKey with
  | none => exact Or.inl rfl
  | some rows =>
    dsimp only
    cases takeChosen s.choose rows with
    | none => exact Or.inl rfl
    | some taken =>
      -- what the answer says decides where the incident goes, and nothing more is asked
      have hasked := isKept_snd s row calls
      refine Or.inr ?_
      dsimp only
      rw [exec_bind]
      rcases hkept : (isKept s row).exec calls with ⟨o, calls'⟩
      rw [hkept] at hasked
      cases o with
      | error e => exact hasked
      | ok kept =>
        cases kept with
        | false => exact hasked
        | true => exact hasked

theorem foldlM_matchMoved_asks {s : Setting} {new : List IncidentRow} {p : Progress}
    {calls : List GitCall} {call : GitCall}
    (h : call ∈ ((new.foldlM (matchMoved s) p).exec calls).2) :
    call ∈ calls ∨ ∃ row ∈ new, call ∈ questions s row := by
  induction new generalizing p calls with
  | nil => exact Or.inl h
  | cons row rest ih =>
    have hstep := matchMoved_snd s p row calls
    rw [List.foldlM_cons, exec_bind] at h
    rcases hrun : (matchMoved s p row).exec calls with ⟨o, calls'⟩
    rw [hrun] at h hstep
    dsimp only at hstep
    -- what was asked by now was asked before or is about this incident
    have hsofar : call ∈ calls' → call ∈ calls ∨ ∃ r ∈ row :: rest, call ∈ questions s r := by
      intro hcall
      rcases hstep with hsame | hasked
      · exact Or.inl (hsame ▸ hcall)
      · rcases List.mem_append.mp (hasked ▸ hcall) with hbefore | hown
        · exact Or.inl hbefore
        · exact Or.inr ⟨row, List.mem_cons_self, hown⟩
    cases o with
    | error e => exact hsofar h
    | ok q =>
      rcases ih h with hbefore | ⟨r, hr, hask⟩
      · exact hsofar hbefore
      · exact Or.inr ⟨r, List.mem_cons_of_mem _ hr, hask⟩

/-- Detection asks about incidents of the new analysis only. -/
theorem lineMatch_asks {s : Setting} {old new : List IncidentRow} {call : GitCall}
    (h : call ∈ ((lineMatch s old new).exec []).2) : ∃ row ∈ new, call ∈ questions s row := by
  rw [lineMatch, filterExact_eq_matchExactly, bind_pure_comp, exec_map] at h
  rcases foldlM_matchMoved_asks h with hnone | ⟨row, hrow, hask⟩
  · cases hnone
  · exact ⟨row, unmatched_subset old new row hrow, hask⟩

end Detection

namespace Location

open Detection Producer

/-! ## Three names -/

/-- What three parts of the program call the file of an incident with a given address: detection,
production of solutions, and the list of the files of a report. -/
structure Named (uri dir asked produced listed : String) : Prop where
  /-- Detection asks for the versions of the file under the first name. -/
  detection : ∀ (s : Setting) (row : IncidentRow) (calls : List GitCall),
    s.repo.directory = dir → row.uri = uri →
    ((isKept s row).exec calls).2 = calls ++ versionsAsked s asked
  /-- It asks for nothing else. -/
  detectionOnly : ∀ (s : Setting) (old new : List IncidentRow), s.repo.directory = dir →
    (∀ row ∈ new, row.uri = uri) →
    ∀ call ∈ ((lineMatch s old new).exec []).2, call ∈ versionsAsked s asked
  /-- Production asks for the content of the file under the second name. -/
  production : ∀ (repo : Repository) (old new : Option String) (row : IncidentRow)
    (calls : List GitCall), repo.directory = dir → row.uri = uri →
    ((produceText repo old new row).exec calls).2 =
      calls ++ [.content (Repository.fileAt old produced), .content (Repository.fileAt new produced),
        .difference old new (Path.join dir produced)]
  /-- A report lists its incidents with this address under the third name, and under no other. -/
  listing : ∀ (report : Report) (files : ImpactedFiles), report.impactedFiles = .ok files →
    ∀ (path : String) (i : ExtendedIncident), i.uri = uri →
    (files.Lists path i ↔ path = listed ∧
      ∃ occurrence ∈ report.occurrences, Report.Reports occurrence listed i)

theorem named_of_path {uri path : String} (h : Url.path uri = .ok path) (dir : String) :
    Named uri dir (Path.join dir (relative (Url.unescape path))) (relative (Url.unescape path))
      (relative path) := by
  have hescaped : ofEscapedUri uri = .ok (relative (Url.unescape path)) := by
    rw [ofEscapedUri, h]
    rfl
  have hplain : ofUri uri = .ok (relative path) := by
    rw [ofUri, h]
    rfl
  have hquestions : ∀ (s : Setting) (row : IncidentRow), s.repo.directory = dir → row.uri = uri →
      questions s row = versionsAsked s (Path.join dir (relative (Url.unescape path))) := by
    intro s row hdir huri
    rw [questions, huri, hescaped, hdir]
    rfl
  constructor
  · intro s row calls hdir huri
    rw [isKept_snd, hquestions s row hdir huri]
  · intro s old new hdir huri call hcall
    obtain ⟨row, hrow, hask⟩ := lineMatch_asks hcall
    rwa [hquestions s row hdir (huri row hrow)] at hask
  · intro repo old new row calls hdir huri
    rw [← hdir]
    exact produceText_snd (huri ▸ hescaped) old new calls
  · intro report files hfiles key i huri
    constructor
    · intro hlisted
      -- an address leads to one path only
      have hkey : key = relative path := by
        have hown := Report.ofUri_of_lists hfiles hlisted
        rw [huri, hplain] at hown
        exact (Except.ok.inj hown).symm
      exact ⟨hkey, hkey ▸ (Report.lists_iff hfiles key i).mp hlisted⟩
    · rintro ⟨rfl, hreported⟩
      exact (Report.lists_iff hfiles _ i).mpr hreported

/-- **When the file of an incident has one name.** An address that cannot be read has none: nothing is
asked, and no report lists an incident with it. Otherwise

* detection and production ask for the same file exactly if the directory of the repository is empty
  or the path inside the application begins with a slash, since detection puts the directory in front;
* production and the report name the same file exactly if the path has no escape, since only
  production reads escapes. -/
theorem one_file_iff (uri : String) :
    (∀ e, Url.path uri = .error e →
      (∀ (s : Setting) (row : IncidentRow) (calls : List GitCall), row.uri = uri →
        (isKept s row).exec calls = (.error e, calls)) ∧
      (∀ (repo : Repository) (old new : Option String) (row : IncidentRow) (calls : List GitCall),
        row.uri = uri → (produceText repo old new row).exec calls = (.error e, calls)) ∧
      ∀ (report : Report) (files : ImpactedFiles), report.impactedFiles = .ok files →
        ∀ (path : String) (i : ExtendedIncident), files.Lists path i → i.uri ≠ uri) ∧
    ∀ path, Url.path uri = .ok path → ∀ dir,
      Named uri dir (Path.join dir (relative (Url.unescape path))) (relative (Url.unescape path))
        (relative path) ∧
      (Path.join dir (relative (Url.unescape path)) = relative (Url.unescape path) ↔
        dir = "" ∨ Text.startsWith (relative (Url.unescape path)) "/" = true) ∧
      (relative (Url.unescape path) = relative path ↔ ¬ Url.HasEscape path.toList) := by
  refine ⟨fun e he => ⟨?_, ?_, ?_⟩, fun path hpath dir => ?_⟩
  · intro s row calls huri
    rw [isKept, huri, ofEscapedUri, he]
    rfl
  · intro repo old new row calls huri
    rw [produceText, huri, ofEscapedUri, he]
    rfl
  · intro report files hfiles path i hlisted huri
    have hown := Report.ofUri_of_lists hfiles hlisted
    rw [huri, ofUri, he] at hown
    cases hown
  · exact ⟨named_of_path hpath dir, Path.join_eq_right_iff, relative_unescape_iff⟩

/-- With no directory in front and no escape there is one name. An address with an open bracket has
none. -/
theorem one_file_without_directory :
    Url.path "file:///opt/input/source/A.java" = .ok "/opt/input/source/A.java" ∧
    Named "file:///opt/input/source/A.java" "" "A.java" "A.java" "A.java" ∧
    Url.path "http://[" = .error (.badValue "Invalid IPv6 URL") ∧
    ∀ (s : Setting) (row : IncidentRow) (calls : List GitCall), row.uri = "http://[" →
      (isKept s row).exec calls = (.error (.badValue "Invalid IPv6 URL"), calls) := by
  have hpath : Url.path "file:///opt/input/source/A.java" = .ok "/opt/input/source/A.java" := by
    decide +kernel
  have hnamed := ((one_file_iff "file:///opt/input/source/A.java").2 _ hpath "").1
  have hname : relative (Url.unescape "/opt/input/source/A.java") = "A.java" ∧
      relative "/opt/input/source/A.java" = "A.java" ∧ Path.join "" "A.java" = "A.java" := by
    decide +kernel
  rw [hname.1, hname.2.1, hname.2.2] at hnamed
  have hopen : Url.path "http://[" = .error (.badValue "Invalid IPv6 URL") := by decide +kernel
  exact ⟨hpath, hnamed, hopen, ((one_file_iff "http://[").1 _ hopen).1⟩

/-- An incident in a file with a blank in its name. -/
def blankInName (line : Int) : IncidentRow :=
  { plainRow 0 "" line with uri := "file:///opt/input/source/a%20b.java" }

/-- A report of one incident in that file. -/
def blankInNameReport : Report where
  id := "report"
  rulesets :=
    [{ name := some "rules"
       violations := [("rule",
        { incidents := [{ uri := "file:///opt/input/source/a%20b.java", message := "found" }] })] }]

/-- One file, three names: detection asks for it below the directory, production asks for it without
the directory, and the report lists it with the escape. -/
theorem three_names_of_one_file :
    ((lineMatch keptCode [blankInName 5] [blankInName 4]).exec []).2 =
      [.content "c1:/work/a b.java", .content "c2:/work/a b.java"] ∧
    ((produceText keptCode.repo "c1" "c2" (blankInName 5)).exec []).2 =
      [.content "c1:a b.java", .content "c2:a b.java", .difference "c1" "c2" "/work/a b.java"] ∧
    (blankInNameReport.impactedFiles).map (fun files => files.map Prod.fst) =
      .ok ["a%20b.java"] := by
  decide +kernel

end Location
end Remedy
