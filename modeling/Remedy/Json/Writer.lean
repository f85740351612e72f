import Remedy.Json.Basic
import Remedy.Number.Decimal
import Remedy.Text.Quoted
import Remedy.Text.Search

/-!
# Writing JSON texts

A value is written on one line, or over several lines with an indentation, with every character as
it is or with anything beyond ASCII as numbered escapes.
-/

namespace Remedy.Json

/-- How a JSON text is laid out. -/
structure Layout where
  /-- What stands between two items on one line. -/
  itemGap : String
  /-- What stands between a key and its value. -/
  keyGap : String
  /-- Only ASCII is written, the rest as numbered escapes. -/
  ascii : Bool
  /-- Each item stands on a line of its own, indented by so many blanks per level. -/
  indent : Option Nat := none

/-- One line with a blank after commas and colons, ASCII only. -/
def spaced : Layout := ⟨", ", ": ", true, none⟩

/-- One line with a blank after commas and colons, every character as it is. -/
def spacedText : Layout := ⟨", ", ": ", false, none⟩

/-- One line without blanks, every character as it is. -/
def compactText : Layout := ⟨",", ":", false, none⟩

/-- One line without blanks, ASCII only. -/
def compact : Layout := ⟨",", ":", true, none⟩

/-- Several lines, each level indented by four blanks, ASCII only. -/
def indented : Layout := ⟨",", ": ", true, some 4⟩

/-- A numbered escape of four digits. -/
def numberedEscape (n : Nat) : List Char :=
  '\\' :: 'u' :: Text.hexDigits 4 n

/-- One character inside a string. -/
def stringChar (ascii : Bool) (c : Char) : List Char :=
  let n := c.toNat
  if c == '"' || c == '\\' then ['\\', c]
  else if c == '\n' then ['\\', 'n']
  else if c == '\r' then ['\\', 'r']
  else if c == '\t' then ['\\', 't']
  else if n == 8 then ['\\', 'b']
  else if n == 12 then ['\\', 'f']
  else if n < 32 then numberedEscape n
  else if n < 127 || !ascii then [c]
  else if n < 0x10000 then numberedEscape n
  else
    numberedEscape (0xd800 + (n - 0x10000) / 0x400) ++
      numberedEscape (0xdc00 + (n - 0x10000) % 0x400)

/-- A string between its quotes. -/
def stringChars (ascii : Bool) (s : String) : List Char :=
  '"' :: s.toList.flatMap (stringChar ascii) ++ ['"']

/-- A line break with the indentation of a level, if the layout has lines. -/
def lineBreak (layout : Layout) (level : Nat) : List Char :=
  match layout.indent with
  | some width => '\n' :: List.replicate (width * level) ' '
  | none => []

mutual

/-- The characters of a value that stands at the given level. -/
def chars (layout : Layout) (level : Nat) : Json → List Char
  | .null => "null".toList
  | .bool true => "true".toList
  | .bool false => "false".toList
  | .int n => Decimal.intChars n
  | .real x => Decimal.binary64Chars Decimal.inJson x
  | .str s => stringChars layout.ascii s
  | .arr [] => ['[', ']']
  | .arr (x :: xs) =>
    '[' :: lineBreak layout (level + 1) ++ chars layout (level + 1) x ++
      moreItems layout level xs ++ lineBreak layout level ++ [']']
  | .obj [] => ['\x7b', '\x7d']
  | .obj ((k, v) :: rest) =>
    '\x7b' :: lineBreak layout (level + 1) ++ stringChars layout.ascii k ++ layout.keyGap.toList ++
      chars layout (level + 1) v ++ moreFields layout level rest ++ lineBreak layout level ++
      ['\x7d']

/-- The items after the first, each behind a comma. -/
def moreItems (layout : Layout) (level : Nat) : List Json → List Char
  | [] => []
  | x :: xs =>
    layout.itemGap.toList ++ lineBreak layout (level + 1) ++ chars layout (level + 1) x ++
      moreItems layout level xs

/-- The entries after the first, each behind a comma. -/
def moreFields (layout : Layout) (level : Nat) : List (String × Json) → List Char
  | [] => []
  | (k, v) :: rest =>
    layout.itemGap.toList ++ lineBreak layout (level + 1) ++ stringChars layout.ascii k ++
      layout.keyGap.toList ++ chars layout (level + 1) v ++ moreFields layout level rest

end

/-- A value as text in the given layout. -/
def render (layout : Layout) (v : Json) : String :=
  String.ofList (chars layout 0 v)

/-- Entries in the order of their keys. -/
def sortFields (fields : Fields) : Fields :=
  fields.mergeSort fun a b => Text.precedes a.1 b.1

mutual

/-- The value with the entries of every object in the order of their keys. -/
def sortKeys : Json → Json
  | .arr xs => .arr (sortKeysItems xs)
  | .obj fields => .obj (sortFields (sortKeysFields fields))
  | .null => .null
  | .bool b => .bool b
  | .int n => .int n
  | .real x => .real x
  | .str s => .str s

/-- `sortKeys` of each item. -/
def sortKeysItems : List Json → List Json
  | [] => []
  | x :: xs => sortKeys x :: sortKeysItems xs

/-- `sortKeys` of each entry's value. -/
def sortKeysFields : List (String × Json) → List (String × Json)
  | [] => []
  | (k, v) :: rest => (k, sortKeys v) :: sortKeysFields rest

end

/-- The canonical text of a value: keys in order, on one line. -/
def canonicalText (v : Json) : String :=
  render spaced v.sortKeys

end Remedy.Json
