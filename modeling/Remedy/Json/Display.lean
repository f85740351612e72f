import Remedy.Json.Basic
import Remedy.Number.Decimal
import Remedy.Text.Quoted

/-!
# Showing values inside texts

A value that is put into a prompt or a message is shown the way a person reads it: a text as it is,
a list or an object with its members, where texts stand between quotes.
-/

namespace Remedy.Json

/-- The words for null and the truth values. -/
def nullWord : String := "None"

/-- The words for truth values. -/
def truthWord (b : Bool) : String :=
  if b then "True" else "False"

mutual

/-- A value as a member of a list or an object. -/
def shown : Json → String
  | .null => nullWord
  | .bool b => truthWord b
  | .int n => Decimal.int n
  | .real x => Decimal.binary64 Decimal.plain x
  | .str s => Text.quoted s
  | .arr xs => "[" ++ String.intercalate ", " (shownItems xs) ++ "]"
  | .obj fields => "\x7b" ++ String.intercalate ", " (shownFields fields) ++ "\x7d"

/-- Each item shown. -/
def shownItems : List Json → List String
  | [] => []
  | x :: xs => shown x :: shownItems xs

/-- Each entry shown. -/
def shownFields : List (String × Json) → List String
  | [] => []
  | (k, v) :: rest => (Text.quoted k ++ ": " ++ shown v) :: shownFields rest

end

/-- A value put into a text: a text stands as it is. -/
def display : Json → String
  | .str s => s
  | v => shown v

end Remedy.Json
