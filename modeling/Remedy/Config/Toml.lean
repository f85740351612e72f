import Remedy.Json.Basic
import Remedy.Json.Reader
import Remedy.Text.Search

/-!
# Settings files

The part of TOML that settings files use: comments, table headers, and keys with a text, a whole
number, a truth value or a list of these on one line. Reading gives the settings as nested objects.
-/

namespace Remedy.Toml

/-- Blanks inside a line. -/
def isGap (c : Char) : Bool :=
  c == ' ' || c == '\t'

/-- What follows blanks. -/
def skipGaps (cs : List Char) : List Char :=
  cs.dropWhile isGap

/-- Nothing but blanks and a comment is left on the line. -/
def atEnd (cs : List Char) : Bool :=
  match skipGaps cs with
  | [] => true
  | c :: _ => c == '#'

/-- Characters of keys without quotes. -/
def isKeyChar (c : Char) : Bool :=
  c.isAlphanum || c == '_' || c == '-'

/-- The value of a row of hexadecimal digits. -/
def hexValue? (ds : List Char) : Option Nat :=
  ds.foldlM (fun acc d => (Json.Reader.hexValue? d).map (acc * 16 + ·)) 0

/-- The character with a hexadecimal number. -/
def numbered? (ds : List Char) : Option Char := do
  let n ← hexValue? ds
  if n.isValidChar then some (Char.ofNat n) else none

/-- The character that an escape with one letter stands for. -/
def escape? (c : Char) : Option Char :=
  if c == 'b' then some '\x08'
  else if c == 't' then some '\t'
  else if c == 'n' then some '\n'
  else if c == 'f' then some '\x0c'
  else if c == 'r' then some '\x0d'
  else if c == '"' then some '"'
  else if c == '\\' then some '\\'
  else none

/-- A text in double quotes, after the opening quote. -/
def quotedFrom : List Char → Option (List Char × List Char)
  | '"' :: rest => some ([], rest)
  | '\\' :: 'u' :: a :: b :: c :: d :: rest => do
    let x ← numbered? [a, b, c, d]
    let (cs, after) ← quotedFrom rest
    return (x :: cs, after)
  | '\\' :: 'U' :: a :: b :: c :: d :: e :: f :: g :: h :: rest => do
    let x ← numbered? [a, b, c, d, e, f, g, h]
    let (cs, after) ← quotedFrom rest
    return (x :: cs, after)
  | '\\' :: c :: rest => do
    let x ← escape? c
    let (cs, after) ← quotedFrom rest
    return (x :: cs, after)
  | c :: rest => do
    let (cs, after) ← quotedFrom rest
    return (c :: cs, after)
  | [] => none

/-- A text in single quotes, after the opening quote. -/
def literalFrom (cs : List Char) : Option (List Char × List Char) :=
  Text.cut? ['\''] cs

/-- One part of a key. -/
def keyPart (cs : List Char) : Option (String × List Char) :=
  match cs with
  | '"' :: rest => (quotedFrom rest).map fun (k, after) => (String.ofList k, after)
  | '\'' :: rest => (literalFrom rest).map fun (k, after) => (String.ofList k, after)
  | _ =>
    let k := cs.takeWhile isKeyChar
    if k.isEmpty then none else some (String.ofList k, cs.dropWhile isKeyChar)

/-- A key of parts with points between them. The fuel bounds the number of parts. -/
def keyFrom : Nat → List Char → Option (List String × List Char)
  | 0, _ => none
  | fuel + 1, cs => do
    let (part, rest) ← keyPart (skipGaps cs)
    match skipGaps rest with
    | '.' :: more => do
      let (parts, after) ← keyFrom fuel more
      return (part :: parts, after)
    | after => return ([part], after)

/-- A key at the beginning of a text. -/
def key (cs : List Char) : Option (List String × List Char) :=
  keyFrom (cs.length + 1) cs

/-- A row of digits with single underscores between them, and what follows it. -/
def digitsFrom : List Char → List Char × List Char
  | '_' :: d :: rest =>
    if d.isDigit then
      let (ds, after) := digitsFrom rest
      (d :: ds, after)
    else ([], '_' :: d :: rest)
  | d :: rest =>
    if d.isDigit then
      let (ds, after) := digitsFrom rest
      (d :: ds, after)
    else ([], d :: rest)
  | [] => ([], [])

/-- A whole number, perhaps with a sign and underscores between its digits. A zero in front stands
alone. -/
def number (cs : List Char) : Option (Json × List Char) :=
  let (negative, body) := match cs with
    | '-' :: rest => (true, rest)
    | '+' :: rest => (false, rest)
    | _ => (false, cs)
  match body with
  | '0' :: after => some (.int 0, after)
  | '_' :: _ => none
  | _ =>
    let (digits, after) := digitsFrom body
    if digits.isEmpty then none
    else
      let n : Int := Decimal.valueOf digits
      some (.int (if negative then -n else n), after)

/-- A value that is no list. -/
def scalar (cs : List Char) : Option (Json × List Char) :=
  match cs with
  | '"' :: rest => (quotedFrom rest).map fun (s, after) => (.str (String.ofList s), after)
  | '\'' :: rest => (literalFrom rest).map fun (s, after) => (.str (String.ofList s), after)
  | _ =>
    match Text.front? "true".toList cs, Text.front? "false".toList cs with
    | some after, _ => some (.bool true, after)
    | _, some after => some (.bool false, after)
    | none, none => number cs

/-- The items of a list, after its opening bracket. The fuel bounds their number. -/
def itemsFrom : Nat → List Char → Option (List Json × List Char)
  | 0, _ => none
  | fuel + 1, cs =>
    match skipGaps cs with
    | ']' :: after => some ([], after)
    | body => do
      let (item, rest) ← scalar body
      match skipGaps rest with
      | ',' :: more => do
        let (items, after) ← itemsFrom fuel more
        return (item :: items, after)
      | ']' :: after => return ([item], after)
      | _ => none

/-- A value. -/
def value (cs : List Char) : Option (Json × List Char) :=
  match cs with
  | '[' :: rest => (itemsFrom (rest.length + 1) rest).map fun (items, after) => (.arr items, after)
  | _ => scalar cs

/-- Changes the table at a path, which is made if it is missing. -/
def changeAt (change : Fields → Option Fields) : List String → Fields → Option Fields
  | [], fields => change fields
  | k :: ks, fields =>
    match fields.get? k with
    | none => do
      let inner ← changeAt change ks []
      return fields.set k (.obj inner)
    | some (.obj inner) => do
      let inner' ← changeAt change ks inner
      return fields.set k (.obj inner')
    | some _ => none

/-- What has been read: the settings, the table that keys now go to, the tables that are closed, and
those that keys with points have made since the last header. -/
structure Progress where
  settings : Fields := []
  table : List String := []
  closed : List (List String) := []
  made : List (List String) := []

/-- The tables on the way from a table to the one that a path leads to. -/
def tablesOn : List String → List String → List (List String)
  | _, [] => []
  | table, k :: ks => (table ++ [k]) :: tablesOn (table ++ [k]) ks

/-- Reads a table header, after its opening bracket. A table has one header, and none if keys with
points have made it. -/
def header (p : Progress) (cs : List Char) : Option Progress := do
  let (path, rest) ← key cs
  match rest with
  | ']' :: after =>
    let closed := p.made ++ p.closed
    if !atEnd after || closed.contains path then none
    else
      let settings ← changeAt some path p.settings
      return { settings, table := path, closed := path :: closed }
  | _ => none

/-- Reads a key with its value. A key with points leads through no closed table. -/
def entry (p : Progress) (cs : List Char) : Option Progress := do
  let (path, rest) ← key cs
  match rest with
  | '=' :: more => do
    let (v, after) ← value (skipGaps more)
    let name := path.getLastD ""
    let passed := tablesOn p.table path.dropLast
    let put (fields : Fields) : Option Fields :=
      if fields.has name then none else some (fields.set name v)
    if !atEnd after || passed.any p.closed.contains then none
    else
      let settings ← changeAt put (p.table ++ path.dropLast) p.settings
      return { p with settings, made := passed ++ p.made }
  | _ => none

/-- Reads one line. -/
def line (p : Progress) (cs : List Char) : Option Progress :=
  if atEnd cs then some p
  else
    match skipGaps cs with
    | '[' :: rest => header p rest
    | body => entry p body

/-- Reads settings. -/
def parse? (s : String) : Option Fields :=
  let lines := (Text.pieces ['\n'] s.toList).map fun cs =>
    if cs.getLast? == some '\x0d' then cs.dropLast else cs
  (lines.foldlM line {}).map Progress.settings

end Remedy.Toml
