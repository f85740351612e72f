import Remedy.Store.Row

/-!
# Detecting solved incidents

The incidents of a new analysis are compared with those stored before. A stored incident that is
found again is unsolved, one that is not found again is solved, and an incident that was not stored
is new. Of stored incidents with the same key only the last one takes part.
-/

namespace Remedy

/-- What became of old and new incidents (`SolutionDetectorResult`). -/
structure Detection where
  fresh : List IncidentRow := []
  unsolved : List IncidentRow := []
  solved : List IncidentRow := []
deriving DecidableEq

namespace Detection

/-- Rows by key, in order. -/
abbrev ByKey := List (IncidentKey × IncidentRow)

/-- Puts a row under its key: in the place of the row that was there, or at the end. -/
def putRow : ByKey → IncidentRow → ByKey
  | [], r => [(r.key, r)]
  | (k, old) :: rest, r => if k = r.key then (k, r) :: rest else (k, old) :: putRow rest r

/-- Rows by key; the last of several rows with one key stays, at the place of the first. -/
def byKey (rows : List IncidentRow) : ByKey :=
  rows.foldl putRow []

/-- Takes out the row under a key. -/
def takeRow (table : ByKey) (key : IncidentKey) : Option (IncidentRow × ByKey) :=
  match table.lookup key with
  | some row => some (row, table.filter fun (k, _) => k != key)
  | none => none

/-- The result of matching rows exactly: the rows found again, the new rows not among the old ones,
and the old rows that were not found. -/
structure ExactMatch where
  found : List IncidentRow := []
  unmatched : List IncidentRow := []
  left : ByKey

/-- Matches one new row. -/
def matchRow (m : ExactMatch) (row : IncidentRow) : ExactMatch :=
  match takeRow m.left row.key with
  | some (old, left) => { m with found := m.found ++ [old], left }
  | none => { m with unmatched := m.unmatched ++ [row] }

/-- Matches new rows with old ones by their keys; each old row is found at most once. -/
def matchExactly (old new : List IncidentRow) : ExactMatch :=
  new.foldl matchRow { left := byKey old }

/-- Detection by keys alone (`solution_detection_naive`). -/
def naive (old new : List IncidentRow) : Detection :=
  let m := matchExactly old new
  { fresh := m.unmatched, unsolved := m.found, solved := m.left.map Prod.snd }

end Detection
end Remedy
