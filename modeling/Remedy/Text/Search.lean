/-!
# Searching in texts

Finding, cutting and replacing parts of a text. The working form is the list of characters, so that
a cut is an equation between lists: `cut? part cs = some (a, b)` means that `cs = a ++ part ++ b`
and that `part` occurs nowhere earlier.
-/

namespace Remedy.Text

/-- What follows `part` when `cs` begins with it. -/
def front? : List Char → List Char → Option (List Char)
  | [], cs => some cs
  | _ :: _, [] => none
  | p :: ps, c :: cs => if p = c then front? ps cs else none

/-- Cuts at the first occurrence of `part`: what stands before it and what follows it. -/
def cut? (part : List Char) : List Char → Option (List Char × List Char)
  | [] => if part.isEmpty then some ([], []) else none
  | c :: cs =>
    match front? part (c :: cs) with
    | some rest => some ([], rest)
    | none => (cut? part cs).map fun (before, after) => (c :: before, after)

/-- The pieces between the occurrences of a non-empty separator. `skip` counts the characters of an
occurrence that are still to be passed over, and `piece` holds the current piece backwards. -/
def piecesFrom (sep : List Char) : Nat → List Char → List Char → List (List Char)
  | _, piece, [] => [piece.reverse]
  | skip + 1, piece, _ :: cs => piecesFrom sep skip piece cs
  | 0, piece, c :: cs =>
    if sep.isPrefixOf (c :: cs) then
      piece.reverse :: piecesFrom sep (sep.length - 1) [] cs
    else
      piecesFrom sep 0 (c :: piece) cs

/-- The pieces of a list of characters between the occurrences of a non-empty separator. -/
def pieces (sep cs : List Char) : List (List Char) :=
  piecesFrom sep 0 [] cs

/-- Splits a text at each occurrence of a non-empty separator. -/
def split (s sep : String) : List String :=
  (pieces sep.toList s.toList).map String.ofList

/-- Joins texts with a separator between neighbours. -/
def join (sep : String) (parts : List String) : String :=
  String.intercalate sep parts

/-- Puts `new` in place of each occurrence of the non-empty text `old`. -/
def replace (s old new : String) : String :=
  join new (split s old)

/-- The text begins with `part`. -/
def startsWith (s part : String) : Bool :=
  part.toList.isPrefixOf s.toList

/-- The text ends with `part`. -/
def endsWith (s part : String) : Bool :=
  part.toList.isSuffixOf s.toList

/-- What follows `part` when the text begins with it. -/
def dropFront? (s part : String) : Option String :=
  (front? part.toList s.toList).map String.ofList

/-- What precedes `part` when the text ends with it. -/
def dropBack? (s part : String) : Option String :=
  (front? part.toList.reverse s.toList.reverse).map fun cs => String.ofList cs.reverse

/-- The text has `part` somewhere in it. -/
def contains (s part : String) : Bool :=
  (cut? part.toList s.toList).isSome

/-- Cuts a text at the first occurrence of `part`. -/
def cutAt? (s part : String) : Option (String × String) :=
  (cut? part.toList s.toList).map fun (a, b) => (String.ofList a, String.ofList b)

/-- Cuts a text at the last occurrence of `part`. -/
def cutAtLast? (s part : String) : Option (String × String) :=
  (cut? part.toList.reverse s.toList.reverse).map fun (b, a) =>
    (String.ofList a.reverse, String.ofList b.reverse)

/-- The characters numbered from `first`, at most `count` of them. -/
def slice (s : String) (first count : Nat) : String :=
  String.ofList ((s.toList.drop first).take count)

/-- Code points compared one by one: the order of texts used wherever names are sorted. -/
def precedes (a b : String) : Bool :=
  !(b.toList.map Char.toNat < a.toList.map Char.toNat)

end Remedy.Text
