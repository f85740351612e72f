import Remedy.Proofs.Action
import Remedy.Solution.Producer

/-!
# What solutions are made of

A solution is made by asking a repository. What comes of it depends on the answers of the repository
and not on what was asked before, so it is a function of the incident and the two commits; of the
incident only the address counts.

Main results:

* `produce_fst`: the solution of an incident as a function of the answers of the repository.
* `produceText_snd`: what the repository is asked for it.
* `produceAll_fst`: the solutions of several incidents are those of each.
-/

namespace Remedy.Producer

open Remedy.Action

/-- The solution that the answers of a repository give for an address. -/
def solutionFor (kind : ProducerKind) (repo : Repository) (old new : Option String)
    (uri : String) :
    Outcome Solution := do
  let path ← Location.ofEscapedUri uri
  let fileDiff ← repo.difference old new (Path.join repo.directory path)
  return wanting kind {
    uri, fileDiff
    codeBefore := (repo.content? (Repository.fileAt old path)).getD ""
    codeAfter := (repo.content? (Repository.fileAt new path)).getD "" }

/-- A repository that can tell the differences has a solution for each address that can be read. -/
theorem exists_solutionFor {kind : ProducerKind} {repo : Repository} {old new : Option String}
    {uri file : String}
    (hrepo : ∀ file, ∃ text, repo.difference old new file = .ok text)
    (hfile : Location.ofEscapedUri uri = .ok file) :
    ∃ x, solutionFor kind repo old new uri = .ok x := by
  obtain ⟨text, htext⟩ := hrepo (Path.join repo.directory file)
  exact ⟨_, Outcome.bind_eq_ok.mpr ⟨file, hfile, Outcome.bind_eq_ok.mpr ⟨text, htext, rfl⟩⟩⟩

theorem contentOrEmpty_exec (repo : Repository) (what : String) (calls : List GitCall) :
    (repo.contentOrEmpty what).exec calls =
      (.ok ((repo.content? what).getD ""), calls ++ [.content what]) := by
  -- Both answers of the repository are caught, so that the attempt never fails.
  cases htext : repo.content? what with
  | none =>
    have hattempt : ((repo.content what).attempt).exec calls =
        (.ok (.error .git), calls ++ [.content what]) := by
      rw [Repository.content, htext]
      rfl
    rw [Repository.contentOrEmpty, exec_bind_of_ok hattempt]
    rfl
  | some text =>
    have hattempt : ((repo.content what).attempt).exec calls =
        (.ok (.ok text), calls ++ [.content what]) := by
      rw [Repository.content, htext]
      rfl
    rw [Repository.contentOrEmpty, exec_bind_of_ok hattempt]
    rfl

theorem produce_fst (kind : ProducerKind) (repo : Repository) (old new : Option String)
    (row : IncidentRow) (calls : List GitCall) :
    ((produce kind repo old new row).exec calls).1 = solutionFor kind repo old new row.uri := by
  rw [produce, exec_bind, produceText, exec_bind, solutionFor]
  cases Location.ofEscapedUri row.uri with
  | error e => rfl
  | ok path =>
    rw [exec_ofOutcome]
    dsimp only
    rw [exec_bind_of_ok (contentOrEmpty_exec ..), exec_bind_of_ok (contentOrEmpty_exec ..),
      exec_bind, Repository.differences, exec_ofExec]
    show _ = (repo.difference old new (Path.join repo.directory path) >>= _)
    cases repo.difference old new (Path.join repo.directory path) with
    | error e => rfl
    | ok text => rfl

/-- Both versions of the file are asked for, and then the differences. -/
theorem produceText_snd {repo : Repository} {row : IncidentRow} {file : String}
    (h : Location.ofEscapedUri row.uri = .ok file) (old new : Option String) (calls : List GitCall) :
    ((produceText repo old new row).exec calls).2 =
      calls ++ [.content (Repository.fileAt old file), .content (Repository.fileAt new file),
        .difference old new (Path.join repo.directory file)] := by
  rw [produceText, h, exec_bind_of_ok (exec_ofOutcome ..), exec_bind_of_ok (contentOrEmpty_exec ..),
    exec_bind_of_ok (contentOrEmpty_exec ..), bind_pure_comp, exec_map, Repository.differences,
    exec_ofExec]
  simp

theorem produceAll_fst (kind : ProducerKind) (repo : Repository) (old new : Option String)
    (rows : List IncidentRow) (calls : List GitCall) :
    ((produceAll kind repo old new rows).exec calls).1 =
      rows.mapM fun r => solutionFor kind repo old new r.uri := by
  induction rows generalizing calls with
  | nil => rfl
  | cons row rest ih =>
    have hfirst := produce_fst kind repo old new row calls
    rw [produceAll, exec_bind, List.mapM_cons, ← hfirst]
    rcases (produce kind repo old new row).exec calls with ⟨o, calls'⟩
    cases o with
    | error e => rfl
    | ok first =>
      show ((produceAll kind repo old new rest >>= fun others => pure (first :: others)).exec
        calls').1 = _
      rw [bind_pure_comp, exec_map, ih]
      cases rest.mapM fun r => solutionFor kind repo old new r.uri <;> rfl

end Remedy.Producer
