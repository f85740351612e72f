import Remedy.Proofs.Action
import Remedy.Proofs.Json.CanonicalText
import Remedy.Proofs.Report.Loading
import Remedy.Store.Row

/-!
# What identifies incidents and reports

Incidents are told apart by keys and reports by digests. The variables of an incident enter its key, and
the data of a report its digest, as canonical texts. So incidents have one key exactly if they agree in
everything else and have the same variables up to the order of entries, and reports have one identifier
exactly if their files hold the same data up to that order. Two things in between may fall together by
themselves and are left out of this: the marks of two lines, and the digests of two texts.

Main results:

* `placeKey_eq_iff`, `key_eq_iff`: when two incidents have one key.
* `id_of_ofFile`: the identifier of a report is the digest of what its file holds.
* `identity_by_canonical_text`: values, incidents and reports that are taken for the same.
-/

namespace Remedy

/-! ## Incidents -/

namespace IncidentRow

/-- The incidents agree in what they violate and where, apart from the line, and have the same
variables up to the order of entries. -/
structure SamePlace (r t : IncidentRow) : Prop where
  violation : r.violation = t.violation
  ruleset : r.ruleset = t.ruleset
  application : r.application = t.application
  uri : r.uri = t.uri
  vars : Json.Reordered Eq (.obj r.vars) (.obj t.vars)

variable {r t : IncidentRow} (hr : (Json.obj r.vars).proper = true)
  (ht : (Json.obj t.vars).proper = true)

include hr ht

theorem placeKey_eq_iff : r.placeKey = t.placeKey ↔ r.SamePlace t := by
  have hvars := Json.canonicalText_eq_iff hr ht
  unfold placeKey
  rw [PlaceKey.mk.injEq, hvars]
  constructor
  · rintro ⟨hviolation, hruleset, happlication, huri, hsame⟩
    exact ⟨hviolation, hruleset, happlication, huri, hsame⟩
  · rintro ⟨hviolation, hruleset, happlication, huri, hsame⟩
    exact ⟨hviolation, hruleset, happlication, huri, hsame⟩

theorem key_eq_iff (hline : lineMark r.line = lineMark t.line → r.line = t.line) :
    r.key = t.key ↔ r.SamePlace t ∧ r.line = t.line := by
  unfold key
  rw [IncidentKey.mk.injEq, placeKey_eq_iff hr ht]
  refine and_congr_right fun _ => ⟨hline, fun heq => ?_⟩
  rw [heq]

end IncidentRow

/-! ## Reports -/

namespace Report

theorem id_of_ofJson {id : String} {data : Json} {report : Report}
    (h : ofJson id data = .ok report) : report.id = id := by
  unfold ofJson at h
  cases data with
  | obj fields =>
    obtain ⟨rulesets, -, hreport⟩ := Outcome.bind_eq_ok.mp h
    cases hreport
    rfl
  | arr items =>
    obtain ⟨rulesets, -, hreport⟩ := Outcome.bind_eq_ok.mp h
    cases hreport
    rfl
  | str s =>
    obtain ⟨rulesets, -, hreport⟩ := Outcome.bind_eq_ok.mp h
    cases hreport
    rfl
  | _ => cases h

/-- The identifier of a report is the digest of what its file holds. -/
theorem id_of_ofFile {read : String → Option Json} {files : FileTree} {path : String} {data : Json}
    {report : Report} (hdata : files.Holds read path data) (h : ofFile read files path = .ok report) :
    report.id = digest data :=
  id_of_ofJson (ofFile_of_holds hdata ▸ h)

theorem digest_eq_iff {a b : Json} (ha : a.proper = true) (hb : b.proper = true)
    (hdigest : Digest.ofText a.canonicalText = Digest.ofText b.canonicalText →
      a.canonicalText = b.canonicalText) : digest a = digest b ↔ Json.Reordered Eq a b := by
  rw [← Json.canonicalText_eq_iff ha hb]
  unfold digest
  exact ⟨hdigest, fun heq => by rw [heq]⟩

end Report

/-- No object in what is read from a text has a key twice. -/
def ReadsProper (read : String → Option Json) : Prop :=
  ∀ text data, read text = some data → data.proper = true

/-- **What is taken for the same.** Two values have one canonical text if and only if they are the
same up to the order of entries, at any depth. Two incidents have one key, with or without the line,
if and only if they agree in what enters it and have the same variables up to that order, as long as
the marks of their lines tell the lines apart. Two reports that are read from files, in whatever way
texts are read, have one identifier if and only if the files hold the same data up to that order, as
long as the digests of the two texts tell the texts apart. -/
theorem identity_by_canonical_text :
    (∀ a b : Json, a.proper = true → b.proper = true →
      (a.canonicalText = b.canonicalText ↔ Json.Reordered Eq a b)) ∧
    (∀ r t : IncidentRow, (Json.obj r.vars).proper = true → (Json.obj t.vars).proper = true →
      (r.placeKey = t.placeKey ↔ r.SamePlace t) ∧
      ((lineMark r.line = lineMark t.line → r.line = t.line) →
        (r.key = t.key ↔ r.SamePlace t ∧ r.line = t.line))) ∧
    (∀ (read : String → Option Json) (files files' : FileTree) (path path' : String)
        (data data' : Json) (report report' : Report),
      ReadsProper read → files.Holds read path data → files'.Holds read path' data' →
      Report.ofFile read files path = .ok report → Report.ofFile read files' path' = .ok report' →
      (Digest.ofText data.canonicalText = Digest.ofText data'.canonicalText →
        data.canonicalText = data'.canonicalText) →
      (report.id = report'.id ↔ Json.Reordered Eq data data')) := by
  refine ⟨fun a b ha hb => Json.canonicalText_eq_iff ha hb, fun r t hr ht => ?_, ?_⟩
  · exact ⟨IncidentRow.placeKey_eq_iff hr ht, IncidentRow.key_eq_iff hr ht⟩
  · intro read files files' path path' data data' report report' hread hdata hdata' h h' hdigest
    obtain ⟨_, -, hparse⟩ := id hdata
    obtain ⟨_, -, hparse'⟩ := id hdata'
    rw [Report.id_of_ofFile hdata h, Report.id_of_ofFile hdata' h']
    exact Report.digest_eq_iff (hread _ _ hparse) (hread _ _ hparse') hdigest

/-- An incident with the given message and variables. -/
def incidentWith (message : String) (vars : Fields) : IncidentRow where
  violation := some "v"
  ruleset := some "r"
  application := "a"
  uri := "file:///A.java"
  message := message
  snippet := ""
  line := 7
  vars := vars

/-- A rule set with the entry for its name before the other. -/
def nameFirst : Json := .arr [.obj [("name", .null), ("tags", .null)]]

/-- The rule set with the entry for its name after the other. -/
def nameLast : Json := .arr [.obj [("tags", .null), ("name", .null)]]

/-- The rule set in two files, and a file without rule sets. -/
def rulesetFiles : FileTree where
  files := [(["first"], Json.render Json.spaced nameFirst),
    (["last"], Json.render Json.spaced nameLast), (["none"], Json.render Json.spaced (.arr []))]

/-- A letter and the text of its escape have different texts. Incidents have one key when their
variables are written in another order. Reports have one identifier when the entries of a rule set
are, and another one without the rule set. -/
theorem identity_of_rewritten :
    (Json.str "é").canonicalText ≠ (Json.str "\\u00e9").canonicalText ∧
    (incidentWith "m" [("x", .int 1), ("y", .arr [.null])]).key =
      (incidentWith "n" [("y", .arr [.null]), ("x", .int 1)]).key ∧
    ∃ first last none, Report.ofFile Json.parse? rulesetFiles "/first" = .ok first ∧
      Report.ofFile Json.parse? rulesetFiles "/last" = .ok last ∧
      Report.ofFile Json.parse? rulesetFiles "/none" = .ok none ∧
      first.id = last.id ∧ first.id ≠ none.id := by
  obtain ⟨htexts, hrows, hfiles⟩ := identity_by_canonical_text
  refine ⟨fun heq => ?_, ?_, ?_⟩
  · have hstr : ∀ s t, Json.Reordered Eq (.str s) (.str t) → s = t := by
      intro s t h
      cases h
      rfl
    exact absurd (hstr _ _ ((htexts _ _ rfl rfl).mp heq)) (by decide)
  · have hvars : Json.Reordered Eq (.obj [("x", .int 1), ("y", .arr [.null])])
        (.obj [("y", .arr [.null]), ("x", .int 1)]) :=
      .obj rfl (List.forall₂_same.mpr fun v _ => .same v) (.swap _ _ _)
    have hkey := (hrows (incidentWith "m" [("x", .int 1), ("y", .arr [.null])])
      (incidentWith "n" [("y", .arr [.null]), ("x", .int 1)]) (by decide) (by decide)).2
    exact (hkey fun _ => rfl).mpr ⟨⟨rfl, rfl, rfl, rfl, hvars⟩, rfl⟩
  · have hread : ReadsProper Json.parse? := fun _ _ => Json.proper_of_parse?
    have hholds : ∀ path data, data.proper = true →
        rulesetFiles.read path = .ok (Json.render Json.spaced data) →
        rulesetFiles.Holds Json.parse? path data :=
      fun path data hp hcontent => ⟨_, hcontent, Json.parse?_render Json.readable_spaced hp⟩
    have hfirst := hholds "/first" nameFirst (by decide) (by decide +kernel)
    have hlast := hholds "/last" nameLast (by decide) (by decide +kernel)
    have hnone := hholds "/none" (.arr []) (by decide) (by decide +kernel)
    have hsame : Json.Reordered Eq nameFirst nameLast :=
      .arr (.cons (.obj rfl (List.forall₂_same.mpr fun v _ => .same v) (.swap _ _ _)) .nil) rfl
    have htext := (htexts nameFirst nameLast (by decide) (by decide)).mpr hsame
    -- the digests of the other two texts are computed
    have hentries : Json.sortFields [("name", .null), ("tags", .null)] =
        [("name", .null), ("tags", .null)] := List.mergeSort_of_pairwise (by decide)
    have hsorted : nameFirst.sortKeys = nameFirst :=
      congrArg (fun fields => Json.arr [.obj fields]) hentries
    have hdigest : Digest.ofText nameFirst.canonicalText ≠
        Digest.ofText (Json.arr []).canonicalText := by
      unfold Json.canonicalText
      rw [hsorted]
      decide +kernel
    refine ⟨⟨_, [{ name := none }]⟩, ⟨_, [{ name := none }]⟩, ⟨_, []⟩, Report.ofFile_of_holds hfirst,
      Report.ofFile_of_holds hlast, Report.ofFile_of_holds hnone, ?_, fun heq => ?_⟩
    · exact (hfiles _ _ _ _ _ _ _ _ _ hread hfirst hlast (Report.ofFile_of_holds hfirst)
        (Report.ofFile_of_holds hlast) fun _ => htext).mpr hsame
    · have hother := (hfiles _ _ _ _ _ _ _ _ _ hread hfirst hnone (Report.ofFile_of_holds hfirst)
        (Report.ofFile_of_holds hnone) fun heq => absurd heq hdigest).mp heq
      cases hother with
      | arr inside moved =>
        cases inside
        cases moved

end Remedy
