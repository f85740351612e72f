import Remedy.Json.Display
import Remedy.Text.Blank
import Remedy.Text.Search
import Remedy.Failure

/-!
# Templates

A template is text with values put in, parts that appear only if something is set or defined, and
parts that are repeated for each item of a list. Values are shown escaped for markup unless a place
takes them as they are. A name that stands for nothing is a failure, never an empty text.

The tags of a template stand on lines of their own as a rule. The layout says whether the line break
after a tag and the blanks before it on its line are dropped.
-/

namespace Remedy

/-- How a value is put into a text. -/
inductive Insertion where
  /-- Characters with a meaning in markup are escaped. -/
  | escaped
  /-- The value stands as it is. -/
  | asIs
deriving DecidableEq

/-- A part of a template. A value is named by a path: a name, then names of its members. -/
inductive TemplateNode where
  | text (s : String)
  | value (path : List String) (how : Insertion)
  | whenSet (path : List String) (body : List TemplateNode)
  | whenDefined (path : List String) (body : List TemplateNode)
  | forEach (name : String) (path : List String) (body : List TemplateNode)
  | comment

/-- The parts of a template, in order. -/
abbrev Template := List TemplateNode

/-- How a template is read and filled in. -/
structure TemplateLayout where
  /-- Values are escaped for markup. -/
  escapes : Bool := true
  /-- The line break after a tag is dropped. -/
  trimsAfterTags : Bool := true
  /-- Blanks before a tag on its line are dropped. -/
  stripsBeforeTags : Bool := true
deriving DecidableEq

namespace Template

/-- Lines of text. -/
def lines (ls : List String) : String :=
  Text.join "\n" ls

/-! ## Line breaks and blanks around tags -/

/-- The part is a tag that stands between texts; a value is not. -/
def isTag : TemplateNode → Bool
  | .text _ => false
  | .value _ _ => false
  | _ => true

/-- What precedes a part: whether it is a tag, and whether it ends a line. -/
structure Before where
  tag : Bool
  lineStart : Bool

/-- Drops the line break right after a tag; tells whether the text now begins a line. -/
def afterTag (layout : TemplateLayout) (before : Before) (cs : List Char) : List Char × Bool :=
  if before.tag && layout.trimsAfterTags then
    match cs with
    | '\n' :: rest => (rest, true)
    | _ => (cs, false)
  else (cs, before.lineStart)

/-- Drops the blanks at the end of a text if nothing else stands on its last line. -/
def beforeTag (lineStart : Bool) (cs : List Char) : List Char :=
  let lastLine := (cs.reverse.takeWhile (· != '\n')).reverse
  let earlier := cs.take (cs.length - lastLine.length)
  if (lineStart || !earlier.isEmpty) && lastLine.all Text.isBlank then earlier else cs

/-- A text between the part before it and the part after it. -/
def settleText (layout : TemplateLayout) (before : Before) (tagFollows : Bool) (s : String) :
    String :=
  let (cs, lineStart) := afterTag layout before s.toList
  String.ofList (if tagFollows && layout.stripsBeforeTags then beforeTag lineStart cs else cs)

/-- Whether a tag follows: the next part, or the closing tag around these parts. -/
def tagFollows (closing : Bool) : List TemplateNode → Bool
  | [] => closing
  | n :: _ => isTag n

mutual

/-- The parts inside a part, with the texts at tags settled. -/
def settleNode (layout : TemplateLayout) : TemplateNode → TemplateNode
  | .text s => .text s
  | .value path how => .value path how
  | .whenSet path body => .whenSet path (settleNodes layout ⟨true, false⟩ true body)
  | .whenDefined path body => .whenDefined path (settleNodes layout ⟨true, false⟩ true body)
  | .forEach name path body => .forEach name path (settleNodes layout ⟨true, false⟩ true body)
  | .comment => .comment

/-- Settles texts, given what precedes the parts and whether a closing tag follows them. -/
def settleNodes (layout : TemplateLayout) (before : Before) (closing : Bool) :
    List TemplateNode → List TemplateNode
  | [] => []
  | .text s :: rest =>
    .text (settleText layout before (tagFollows closing rest) s) ::
      settleNodes layout ⟨false, false⟩ closing rest
  | n :: rest => settleNode layout n :: settleNodes layout ⟨isTag n, false⟩ closing rest

end

/-! ## Filling in -/

/-- Escapes one character for markup. -/
def escapeChar (c : Char) : List Char :=
  if c == '&' then "&amp;".toList
  else if c == '<' then "&lt;".toList
  else if c == '>' then "&gt;".toList
  else if c == '\'' then "&#39;".toList
  else if c == '"' then "&#34;".toList
  else [c]

/-- Escapes a text for markup. -/
def escape (s : String) : String :=
  String.ofList (s.toList.flatMap escapeChar)

/-- What a path stands for: a value, or nothing, with the words that say so. -/
inductive Lookup where
  | found (v : Json)
  | undefined (text : String)

/-- The word for the kind of a value. -/
def kindWord : Json → String
  | .null => "None"
  | .bool _ => "bool object"
  | .int _ => "int object"
  | .real _ => "float object"
  | .str _ => "str object"
  | .arr _ => "list object"
  | .obj _ => "dict object"

/-- The member of a value under a name. -/
def member (v : Json) (name : String) : Lookup :=
  match v.get? name with
  | some w => .found w
  | none =>
    .undefined (Text.quoted (kindWord v) ++ " has no attribute " ++ Text.quoted name)

/-- Follows the names of members; a member of nothing is a failure. -/
def followMembers : Lookup → List String → Outcome Lookup
  | l, [] => .ok l
  | .found v, name :: rest => followMembers (member v name) rest
  | .undefined text, _ :: _ => .error (.undefinedInTemplate text)

/-- What a path stands for among the given values. -/
def lookup (values : Fields) : List String → Outcome Lookup
  | [] => .ok (.undefined "")
  | name :: rest =>
    let first := match values.get? name with
      | some v => Lookup.found v
      | none => .undefined (Text.quoted name ++ " is undefined")
    followMembers first rest

/-- The value of a path; nothing is a failure. -/
def valueAt (values : Fields) (path : List String) : Outcome Json := do
  match ← lookup values path with
  | .found v => return v
  | .undefined text => throw (.undefinedInTemplate text)

/-- What a repeated part is repeated for. -/
def itemsOf : Json → Outcome (List Json)
  | .arr items => .ok items
  | .obj fields => .ok (fields.map fun (k, _) => .str k)
  | .str s => .ok (s.toList.map fun c => .str c.toString)
  | _ => .error .wrongKind

/-- A value as it is put into the text. -/
def insertion (layout : TemplateLayout) (how : Insertion) (v : Json) : String :=
  match how with
  | .asIs => v.display
  | .escaped => if layout.escapes then escape v.display else v.display

mutual

/-- Fills in one part. -/
def renderNode (layout : TemplateLayout) (values : Fields) : TemplateNode → Outcome String
  | .text s => .ok s
  | .comment => .ok ""
  | .value path how => do
    let v ← valueAt values path
    return insertion layout how v
  | .whenSet path body => do
    let v ← valueAt values path
    if v.isSet then renderNodes layout values body else return ""
  | .whenDefined path body => do
    match ← lookup values path with
    | .found _ => renderNodes layout values body
    | .undefined _ => return ""
  | .forEach name path body => do
    let v ← valueAt values path
    let items ← itemsOf v
    let parts ← items.zipIdx.mapM fun (item, i) =>
      renderNodes layout
        ((values.set name item).set "loop" (.obj [("index0", .int i)])) body
    return String.join parts

/-- Fills in parts one after the other. -/
def renderNodes (layout : TemplateLayout) (values : Fields) : List TemplateNode → Outcome String
  | [] => .ok ""
  | n :: rest => do
    let front ← renderNode layout values n
    let back ← renderNodes layout values rest
    return front ++ back

end

/-- Fills in a template. -/
def render (layout : TemplateLayout) (template : Template) (values : Fields) : Outcome String :=
  renderNodes layout values (settleNodes layout ⟨false, true⟩ false template)

/-! ## Templates given as text -/

/-- A name: a letter or underscore, then word characters. -/
def isName (s : String) : Bool :=
  match s.toList with
  | [] => false
  | c :: cs => (c == '_' || c.isAlpha) && cs.all fun d => d == '_' || d.isAlphanum

/-- Texts and names between double braces, in turn. The fuel bounds the number of names. -/
def nodesFrom : Nat → List Char → List TemplateNode
  | 0, cs => [.text (String.ofList cs)]
  | fuel + 1, cs =>
    match Text.cut? ['\x7b', '\x7b'] cs with
    | none => if cs.isEmpty then [] else [.text (String.ofList cs)]
    | some (before, rest) =>
      let front := if before.isEmpty then [] else [.text (String.ofList before)]
      match Text.cut? ['\x7d', '\x7d'] rest with
      | none => front ++ [.text (String.ofList ('\x7b' :: '\x7b' :: rest))]
      | some (name, after) =>
        front ++ .value [String.ofList (Text.trimmed name)] .escaped :: nodesFrom fuel after

/-- A template of texts and names between double braces. A line break at its end is dropped. -/
def ofText (s : String) : Template :=
  let cs := s.toList
  let body := if cs.getLast? == some '\n' then cs.dropLast else cs
  nodesFrom body.length body

end Template
end Remedy
