import Remedy.Proofs.Action
import Remedy.Proofs.Detection.Naive
import Remedy.Detection.LineMatch

/-!
# What detection by moved lines finds

Detection by moved lines goes on where detection by keys stops: one after the other, the incidents
that matched no key are new, or take the place of an old incident of their kind.

Main results:

* `isKept_exec`: what is asked of the repository about an incident, and what its code is found to be.
* `filterExact_eq_matchExactly`: taking the exact matches out of the new incidents, by their positions,
  is matching by keys.
* `matchMoved_ok`: what one incident does to the progress, in every case that does not fail.
* `fresh_subset_of_detect`: whatever the method, what is new is an incident of the report.
* `solved_subset_of_detect`: whatever the method, what is solved is an old incident, as it was.
-/

namespace Remedy.Detection

open Remedy.Action

/-- Both versions of the file that an incident is in are there and can be parsed. -/
structure FileFound (s : Setting) (row : IncidentRow) (file oldText newText : String)
    (oldTree newTree : SyntaxTree) : Prop where
  address : Location.ofEscapedUri row.uri = .ok file
  old : s.repo.content? (Repository.fileAt s.oldCommit (Path.join s.repo.directory file)) =
    some oldText
  new : s.repo.content? (Repository.fileAt s.newCommit (Path.join s.repo.directory file)) =
    some newText
  oldParsed : s.source.parse oldText = .ok oldTree
  newParsed : s.source.parse newText = .ok newTree

theorem content_exec_of_some {repo : Repository} {what text : String}
    (h : repo.content? what = some text) (calls : List GitCall) :
    (repo.content what).exec calls = (.ok text, calls ++ [.content what]) := by
  rw [Repository.content, exec_ofExec, h]

/-- The old file and the new one are asked for, and the mapping is asked about the tightest node of
the old tree around the range found for the line. -/
theorem isKept_exec {s : Setting} {row : IncidentRow} {file oldText newText : String}
    {oldTree newTree : SyntaxTree} (h : FileFound s row file oldText newText oldTree newTree)
    (calls : List GitCall) :
    (isKept s row).exec calls =
      (.ok (s.source.keeps oldTree newTree
        (oldTree.tightest (lineRange oldText.toList (row.line + 1).toNat).1
          (lineRange oldText.toList (row.line + 1).toNat).2)),
       calls ++ [.content (Repository.fileAt s.oldCommit (Path.join s.repo.directory file))] ++
        [.content (Repository.fileAt s.newCommit (Path.join s.repo.directory file))]) := by
  rw [isKept, h.address, exec_bind_of_ok (exec_ofOutcome ..),
    exec_bind_of_ok (content_exec_of_some h.old _), exec_bind_of_ok (content_exec_of_some h.new _),
    h.oldParsed, exec_bind_of_ok (exec_ofOutcome ..), h.newParsed,
    exec_bind_of_ok (exec_ofOutcome ..)]
  rfl

/-- What one new incident does to the progress of a detection. -/
theorem matchMoved_ok {s : Setting} {p q : Progress} {row : IncidentRow}
    {calls calls' : List GitCall} (h : (matchMoved s p row).exec calls = (.ok q, calls')) :
    q = { p with fresh := p.fresh ++ [row] } ∨
    (p.groups.lookup row.placeKey = some [] ∧
      q = { p with fresh := p.fresh ++ [row], groups := dropGroup p.groups row.placeKey }) ∨
    ∃ rows old others, p.groups.lookup row.placeKey = some rows ∧
      takeChosen s.choose rows = some (old, others) ∧
      q = { p with
        unsolved := p.unsolved ++ [{ old with line := row.line }]
        groups := setGroup p.groups row.placeKey others } := by
  rw [matchMoved] at h
  cases hgroup : p.groups.lookup row.placeKey with
  | none =>
    rw [hgroup] at h
    cases h
    exact Or.inl rfl
  | some rows =>
    rw [hgroup] at h
    cases htake : takeChosen s.choose rows with
    | none =>
      simp only [htake] at h
      cases h
      have hrows : rows = [] := by
        by_contra hne
        have hlt : s.choose rows % rows.length < rows.length :=
          Nat.mod_lt _ (List.length_pos_iff.mpr hne)
        simp [takeChosen, List.getElem?_eq_getElem hlt] at htake
      exact Or.inr (Or.inl ⟨by rw [hrows], rfl⟩)
    | some taken =>
      obtain ⟨old, others⟩ := taken
      simp only [htake] at h
      obtain ⟨kept, calls₁, -, hrest⟩ := exec_bind_eq_ok.mp h
      cases kept with
      | true =>
        cases hrest
        exact Or.inr (Or.inr ⟨rows, old, others, rfl, htake, rfl⟩)
      | false =>
        cases hrest
        exact Or.inl rfl

theorem mem_addToGroup {groups : Groups} {r x : IncidentRow}
    (h : x ∈ (addToGroup groups r).flatMap Prod.snd) :
    x ∈ groups.flatMap Prod.snd ∨ x = r := by
  induction groups with
  | nil => simpa [addToGroup] using h
  | cons g rest ih =>
    obtain ⟨k, rows⟩ := g
    rw [addToGroup] at h
    split at h
    · simp only [List.flatMap_cons, List.mem_append, List.mem_singleton] at h ⊢
      tauto
    · simp only [List.flatMap_cons, List.mem_append] at h ⊢
      rcases h with h | h
      · exact Or.inl (Or.inl h)
      · rcases ih h with h | h
        · exact Or.inl (Or.inr h)
        · exact Or.inr h

theorem mem_foldl_addToGroup {rows : List IncidentRow} {groups : Groups} {x : IncidentRow}
    (h : x ∈ (rows.foldl addToGroup groups).flatMap Prod.snd) :
    x ∈ groups.flatMap Prod.snd ∨ x ∈ rows := by
  induction rows generalizing groups with
  | nil => exact Or.inl h
  | cons r rows ih =>
    rcases ih h with h | h
    · rcases mem_addToGroup h with h | rfl
      · exact Or.inl h
      · exact Or.inr List.mem_cons_self
    · exact Or.inr (List.mem_cons_of_mem _ h)

theorem mem_of_mem_setGroup {groups : Groups} {k : PlaceKey} {rows others : List IncidentRow}
    (hlook : groups.lookup k = some rows) (hsub : others ⊆ rows) {x : IncidentRow}
    (h : x ∈ (setGroup groups k others).flatMap Prod.snd) : x ∈ groups.flatMap Prod.snd := by
  obtain ⟨before, after, hgroups, -⟩ := List.lookup_eq_some_iff.mp hlook
  have hmem : (k, rows) ∈ groups := by
    rw [hgroups]
    simp
  rw [List.mem_flatMap] at h ⊢
  obtain ⟨g, hg, hx⟩ := h
  obtain ⟨g', hg', rfl⟩ := List.mem_map.mp hg
  dsimp only at hx
  split at hx
  · exact ⟨(k, rows), hmem, hsub hx⟩
  · exact ⟨g', hg', hx⟩

/-- What one new incident can do: it becomes new itself, and old incidents only leave the groups. -/
theorem matchMoved_subset {s : Setting} {p q : Progress} {row : IncidentRow}
    {calls calls' : List GitCall} (h : (matchMoved s p row).exec calls = (.ok q, calls')) :
    (∀ r ∈ q.fresh, r ∈ p.fresh ∨ r = row) ∧
      ∀ r ∈ q.groups.flatMap Prod.snd, r ∈ p.groups.flatMap Prod.snd := by
  rcases matchMoved_ok h with rfl | ⟨-, rfl⟩ | ⟨rows, old, others, hlook, htake, rfl⟩
  · exact ⟨fun r hr => by simpa using hr, fun r hr => hr⟩
  · refine ⟨fun r hr => by simpa using hr, fun r hr => ?_⟩
    obtain ⟨g, hg, hr⟩ := List.mem_flatMap.mp hr
    exact List.mem_flatMap.mpr ⟨g, List.mem_of_mem_filter hg, hr⟩
  · refine ⟨fun r hr => Or.inl hr, fun r hr => mem_of_mem_setGroup hlook ?_ hr⟩
    obtain ⟨taken, _, heq⟩ := Option.map_eq_some_iff.mp htake
    cases heq
    exact (List.eraseIdx_sublist ..).subset

theorem foldlM_matchMoved_subset {s : Setting} {new : List IncidentRow} {p q : Progress}
    {calls calls' : List GitCall}
    (h : (new.foldlM (matchMoved s) p).exec calls = (.ok q, calls')) :
    (∀ r ∈ q.fresh, r ∈ p.fresh ∨ r ∈ new) ∧
      ∀ r ∈ q.groups.flatMap Prod.snd, r ∈ p.groups.flatMap Prod.snd := by
  induction new generalizing p calls with
  | nil =>
    cases h
    exact ⟨fun r hr => Or.inl hr, fun r hr => hr⟩
  | cons row rest ih =>
    rw [List.foldlM_cons] at h
    obtain ⟨p₁, calls₁, hstep, hrest⟩ := exec_bind_eq_ok.mp h
    obtain ⟨hfresh, hgroups⟩ := matchMoved_subset hstep
    obtain ⟨hfresh', hgroups'⟩ := ih hrest
    refine ⟨fun r hr => ?_, fun r hr => hgroups r (hgroups' r hr)⟩
    rcases hfresh' r hr with hin | hin
    · rcases hfresh r hin with hin | rfl
      · exact Or.inl hin
      · exact Or.inr List.mem_cons_self
    · exact Or.inr (List.mem_cons_of_mem _ hin)

theorem unmatched_foldl_subset (new : List IncidentRow) (m : ExactMatch) :
    ∀ r ∈ (new.foldl matchRow m).unmatched, r ∈ m.unmatched ∨ r ∈ new := by
  induction new generalizing m with
  | nil => exact fun r hr => Or.inl hr
  | cons row rest ih =>
    intro r hr
    rcases ih (matchRow m row) r hr with hin | hin
    · rcases matchRow_cases m row with ⟨old, -, heq⟩ | ⟨-, heq⟩
      · rw [heq] at hin
        exact Or.inl hin
      · rw [heq] at hin
        rcases List.mem_append.mp hin with hin | hin
        · exact Or.inl hin
        · rw [List.mem_singleton] at hin
          exact Or.inr (hin ▸ List.mem_cons_self ..)
    · exact Or.inr (List.mem_cons_of_mem _ hin)

theorem unmatched_subset (old new : List IncidentRow) :
    ∀ r ∈ (matchExactly old new).unmatched, r ∈ new := by
  intro r hr
  rcases unmatched_foldl_subset new { left := byKey old } r hr with hin | hin
  · simp at hin
  · exact hin

/-- What taking exact matches out has passed stays, and the rest is matched row by row. -/
theorem filterExact_eq_foldl (m : ExactMatch) (i : Nat) :
    filterExact m i =
      (m.unmatched.drop i).foldl matchRow { m with unmatched := m.unmatched.take i } := by
  fun_induction filterExact m i with
  | case1 m i h old left htake ih =>
    have hpassed : (m.unmatched.take i).length = i := List.length_take_of_le (Nat.le_of_lt h)
    rw [ih, List.drop_eq_getElem_cons h, List.foldl_cons, matchRow, htake]
    simp only [List.eraseIdx_eq_take_drop_succ, List.take_left' hpassed, List.drop_left' hpassed]
  | case2 m i h hnone ih =>
    rw [ih, List.drop_eq_getElem_cons h, List.foldl_cons, matchRow, hnone,
      List.take_succ_eq_append_getElem h]
  | case3 m i h =>
    rw [List.drop_eq_nil_of_le (by omega), List.take_of_length_le (by omega)]
    rfl

/-- Taking the exact matches out of the new incidents is matching them by their keys. -/
theorem filterExact_eq_matchExactly (old new : List IncidentRow) :
    filterExact { unmatched := new, left := byKey old } 0 = matchExactly old new := by
  rw [filterExact_eq_foldl]
  rfl

/-- The end of a detection that follows moved lines. -/
theorem lineMatch_ok {s : Setting} {old new : List IncidentRow} {found : Detection}
    (h : ((lineMatch s old new).exec []).1 = .ok found) :
    ∃ q calls, ((matchExactly old new).unmatched.foldlM (matchMoved s)
        { unsolved := (matchExactly old new).found
          groups := ((matchExactly old new).left.map Prod.snd).foldl addToGroup [] }).exec []
          = (.ok q, calls) ∧
      found = { fresh := q.fresh, unsolved := q.unsolved, solved := q.groups.flatMap Prod.snd } := by
  rcases hexec : (lineMatch s old new).exec [] with ⟨o, calls⟩
  rw [hexec] at h
  cases h
  rw [lineMatch, filterExact_eq_matchExactly] at hexec
  obtain ⟨q, calls₁, hfold, hpure⟩ := exec_bind_eq_ok.mp hexec
  cases hpure
  exact ⟨q, calls, hfold, rfl⟩

/-- What is new is an incident of the report. -/
theorem fresh_subset_of_detect {kind : DetectorKind} {s : Setting} {old new : List IncidentRow}
    {found : Detection} (h : ((detect kind s old new).exec []).1 = .ok found) :
    ∀ r ∈ found.fresh, r ∈ new := by
  cases kind with
  | naive =>
    cases h
    exact unmatched_subset old new
  | lineMatch =>
    obtain ⟨q, calls, hfold, rfl⟩ := lineMatch_ok h
    intro r hr
    rcases (foldlM_matchMoved_subset hfold).1 r hr with hin | hin
    · cases hin
    · exact unmatched_subset old new r hin

/-- What is solved is an old incident, as it was. -/
theorem solved_subset_of_detect {kind : DetectorKind} {s : Setting} {old new : List IncidentRow}
    {found : Detection} (h : ((detect kind s old new).exec []).1 = .ok found) :
    ∀ r ∈ found.solved, r ∈ old := by
  have hnaive : ∀ r ∈ (naive old new).solved, r ∈ old :=
    fun r hr => (mem_naive_solved.mp hr).1.mem
  cases kind with
  | naive =>
    cases h
    exact hnaive
  | lineMatch =>
    obtain ⟨q, calls, hfold, rfl⟩ := lineMatch_ok h
    intro r hr
    rcases mem_foldl_addToGroup ((foldlM_matchMoved_subset hfold).2 r hr) with hin | hin
    · cases hin
    · exact hnaive r hin

end Remedy.Detection
