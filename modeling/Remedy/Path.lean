import Remedy.Text.Search

/-!
# Paths

Paths are texts with slashes between their parts. Nothing here looks at files.
-/

namespace Remedy.Path

/-- Puts the second path under the first, unless the second begins at the root. -/
def join (a b : String) : String :=
  if Text.startsWith b "/" then b
  else if a.isEmpty || Text.endsWith a "/" then a ++ b
  else a ++ "/" ++ b

/-- `join` of several parts, from the left. -/
def joinAll (first : String) (rest : List String) : String :=
  rest.foldl join first

/-- What follows the last slash. -/
def baseName (path : String) : String :=
  match Text.cutAtLast? path "/" with
  | some (_, name) => name
  | none => path

/-- What precedes the last slash, without slashes at its end unless it has nothing else. -/
def parent (path : String) : String :=
  match Text.cutAtLast? path "/" with
  | some (front, _) =>
    let head := front.toList ++ ['/']
    if head.all (· == '/') then String.ofList head
    else String.ofList (head.reverse.dropWhile (· == '/')).reverse
  | none => ""

/-- Splits a file name before its last point, unless only points precede it. -/
def splitExtension (path : String) : String × String :=
  let name := baseName path
  let dir := String.ofList (path.toList.take (path.length - name.length))
  match Text.cutAtLast? name "." with
  | some (stem, ext) =>
    if stem.toList.all (· == '.') then (path, "") else (dir ++ stem, "." ++ ext)
  | none => (path, "")

/-- Resolves one part against the parts before it, kept backwards. -/
def resolveStep (rooted : Bool) (acc : List String) (part : String) : List String :=
  if part.isEmpty || part == "." then acc
  else if part == ".." then
    match acc with
    | [] => if rooted then [] else [".."]
    | last :: rest => if last == ".." then ".." :: acc else rest
  else part :: acc

/-- The slashes in front of a path that count: exactly two are kept, more are one. -/
def lead (path : String) : String :=
  if Text.startsWith path "//" && !Text.startsWith path "///" then "//"
  else if Text.startsWith path "/" then "/"
  else ""

/-- The path without empty parts, single points and double points that undo a part. -/
def normalize (path : String) : String :=
  if path.isEmpty then "."
  else
    let front := lead path
    let parts := (Text.split path "/").foldl (resolveStep (!front.isEmpty)) []
    let body := Text.join "/" parts.reverse
    if (front ++ body).isEmpty then "." else front ++ body

/-- The path without empty parts and single points; double points stay. -/
def tidy (path : String) : String :=
  let parts := (Text.split path "/").filter fun p => !p.isEmpty && p != "."
  let tidied := lead path ++ Text.join "/" parts
  if tidied.isEmpty then "." else tidied

/-- The path from the root, seen from a working directory. -/
def absolute (cwd path : String) : String :=
  normalize (join cwd path)

/-- The parts of two paths after what they have in common. -/
def apart : List String → List String → List String × List String
  | a :: as, b :: bs => if a == b then apart as bs else (a :: as, b :: bs)
  | as, bs => (as, bs)

/-- A path from the root as it is seen from a directory. -/
def relativeTo (dir path : String) : String :=
  let names := fun p => (Text.split (normalize p) "/").filter fun s => !s.isEmpty
  let (up, down) := apart (names dir) (names path)
  let parts := up.map (fun _ => "..") ++ down
  if parts.isEmpty then "." else Text.join "/" parts

end Remedy.Path
