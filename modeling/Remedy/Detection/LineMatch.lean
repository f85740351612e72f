import Remedy.Detection.Basic
import Remedy.Detection.SyntaxTree
import Remedy.Config.Kinds
import Remedy.Path
import Remedy.Report.Location
import Remedy.Repository

/-!
# Detection by lines that have moved

An incident that is not found again under its key may have moved. It counts as unsolved if another
incident of the same kind is reported for the file and the code at its line is still in the new
version of the file. Whether code is still there is told by a mapping from the tree of the old file
to the tree of the new one.
-/

namespace Remedy.Detection

/-- What is known of source files: how they are parsed, and which nodes of an old file are found
again in a new one. -/
structure SourceKnowledge where
  parse : String → Outcome SyntaxTree
  keeps : SyntaxTree → SyntaxTree → SyntaxTree → Bool

/-- Nothing is known about sources. -/
def SourceKnowledge.none : SourceKnowledge where
  parse := fun _ => .error .notOffered
  keeps := fun _ _ _ => false

/-- What a detection works on (`SolutionDetectorContext`). -/
structure Setting where
  repo : Repository
  oldCommit : Option String
  newCommit : Option String
  source : SourceKnowledge
  /-- Which one of several old incidents of the same kind is taken; the number is taken modulo the
  length of the list. -/
  choose : List IncidentRow → Nat := fun _ => 0

/-- The place of the first line break from a place on, or minus one. -/
def breakFrom (text : List Char) (start : Int) : Int :=
  match (text.drop start.toNat).findIdx? (· == '\n') with
  | some i => start.toNat + i
  | none => -1

/-- The range of a line, found by passing one line break after the other. A break that is not there
leads back to the beginning. -/
def lineRange (text : List Char) : Nat → Int × Int
  | 0 => (0, 0)
  | n + 1 =>
    let start := breakFrom text (lineRange text n).1 + 1
    (start, breakFrom text start)

/-- Old incidents of one kind each, in the order in which kinds first occur. -/
abbrev Groups := List (PlaceKey × List IncidentRow)

/-- Adds an incident to its group. -/
def addToGroup : Groups → IncidentRow → Groups
  | [], r => [(r.placeKey, [r])]
  | (k, rows) :: rest, r =>
    if k = r.placeKey then (k, rows ++ [r]) :: rest else (k, rows) :: addToGroup rest r

/-- Takes the chosen row out of a list. -/
def takeChosen (choose : List IncidentRow → Nat) (rows : List IncidentRow) :
    Option (IncidentRow × List IncidentRow) :=
  let i := choose rows % rows.length
  (rows[i]?).map fun r => (r, rows.eraseIdx i)

/-- Replaces the group of a kind. -/
def setGroup (groups : Groups) (key : PlaceKey) (rows : List IncidentRow) : Groups :=
  groups.map fun (k, old) => if k = key then (k, rows) else (k, old)

/-- Drops the group of a kind. -/
def dropGroup (groups : Groups) (key : PlaceKey) : Groups :=
  groups.filter fun (k, _) => k != key

/-- Takes the exact matches out of the new incidents, from a position on. When one is taken out, the
next one moves to its position. -/
def filterExact (m : ExactMatch) (i : Nat) : ExactMatch :=
  if h : i < m.unmatched.length then
    match takeRow m.left m.unmatched[i].key with
    | some (old, left) =>
      filterExact { found := m.found ++ [old], unmatched := m.unmatched.eraseIdx i, left } i
    | none => filterExact m (i + 1)
  else m
termination_by m.unmatched.length - i
decreasing_by
  · have hshort := List.length_eraseIdx_of_lt h
    omega
  · omega

/-- How far a detection has come. -/
structure Progress where
  fresh : List IncidentRow := []
  unsolved : List IncidentRow := []
  groups : Groups

/-- Whether the code at the line of a new incident is in both versions of its file. -/
def isKept (s : Setting) (row : IncidentRow) : GitAction Bool := do
  let path := Path.join s.repo.directory (← Action.ofOutcome (Location.ofEscapedUri row.uri))
  let oldText ← s.repo.content (Repository.fileAt s.oldCommit path)
  let newText ← s.repo.content (Repository.fileAt s.newCommit path)
  let oldTree ← Action.ofOutcome (s.source.parse oldText)
  let newTree ← Action.ofOutcome (s.source.parse newText)
  let (start, stop) := lineRange oldText.toList (row.line + 1).toNat
  return s.source.keeps oldTree newTree (oldTree.tightest start stop)

/-- Matches one new incident with the old ones of its kind. The old incident that is taken gets the
new line. -/
def matchMoved (s : Setting) (p : Progress) (row : IncidentRow) : GitAction Progress := do
  match p.groups.lookup row.placeKey with
  | none => return { p with fresh := p.fresh ++ [row] }
  | some rows =>
    match takeChosen s.choose rows with
    | none =>
      return { p with fresh := p.fresh ++ [row], groups := dropGroup p.groups row.placeKey }
    | some (old, others) =>
      if ← isKept s row then
        return { p with
          unsolved := p.unsolved ++ [{ old with line := row.line }]
          groups := setGroup p.groups row.placeKey others }
      else return { p with fresh := p.fresh ++ [row] }

/-- Detection that follows lines that have moved (`solution_detection_line_match`). -/
def lineMatch (s : Setting) (old new : List IncidentRow) : GitAction Detection := do
  let m := filterExact { unmatched := new, left := byKey old } 0
  let groups := (m.left.map Prod.snd).foldl addToGroup []
  let p ← m.unmatched.foldlM (matchMoved s) { unsolved := m.found, groups }
  return { fresh := p.fresh, unsolved := p.unsolved, solved := p.groups.flatMap Prod.snd }

/-- Detection by the chosen method (`solution_detection_factory`). -/
def detect (kind : DetectorKind) (s : Setting) (old new : List IncidentRow) :
    GitAction Detection :=
  match kind with
  | .naive => return naive old new
  | .lineMatch => lineMatch s old new

/-- Reads the name of a detector. -/
def ofName (name : Json) : Outcome DetectorKind :=
  match DetectorKind.all.find? fun k => name = .str k.word with
  | some kind => .ok kind
  | none => .error (.badValue ("Unknown solution detection kind: " ++ name.display))

end Remedy.Detection
