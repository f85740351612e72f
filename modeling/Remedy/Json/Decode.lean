import Remedy.Json.Basic
import Remedy.Failure

/-!
# Reading models from JSON values

A model is read from the entries of an object. A part is found under the first of its names that is
present; a part that is absent has its default, or makes the data invalid if it has none. Values are
taken as they are: a number is no text and a text is no number. Conversions to whole numbers and truth
values are left out: the text `5`, the number `5.0` and a truth value, of which a lax reader makes whole
numbers, are invalid here, and so are the words and numbers of which it makes truth values.
-/

namespace Remedy.Decode

/-- The data does not fit the model. -/
def invalid {α : Type} : Outcome α :=
  .error (.invalidData none)

/-- A text. -/
def text : Json → Outcome String
  | .str s => .ok s
  | _ => invalid

/-- A whole number. -/
def int : Json → Outcome Int
  | .int n => .ok n
  | _ => invalid

/-- A truth value. -/
def bool : Json → Outcome Bool
  | .bool b => .ok b
  | _ => invalid

/-- A number; a whole number is taken as a double. -/
def real : Json → Outcome Binary64
  | .real x => .ok x
  | .int n => .ok (Binary64.ofInt n)
  | _ => invalid

/-- An object. -/
def object : Json → Outcome Fields
  | .obj fields => .ok fields
  | _ => invalid

/-- A list, each item read by `item`. -/
def listOf {α : Type} (item : Json → Outcome α) : Json → Outcome (List α)
  | .arr xs => xs.mapM item
  | _ => invalid

/-- An object, each value read by `item`. -/
def mapOf {α : Type} (item : Json → Outcome α) : Json → Outcome (List (String × α))
  | .obj fields => fields.mapM fun (k, v) => (item v).map fun x => (k, x)
  | _ => invalid

/-- A value that may be null. -/
def nullable {α : Type} (item : Json → Outcome α) : Json → Outcome (Option α)
  | .null => .ok none
  | v => (item v).map some

/-- A part that must be present, under the first of its names. -/
def required {α : Type} (fields : Fields) (names : List String) (item : Json → Outcome α) :
    Outcome α :=
  match fields.firstOf? names with
  | some v => item v
  | none => invalid

/-- A part with a default. -/
def withDefault {α : Type} (fields : Fields) (names : List String) (item : Json → Outcome α)
    (default : α) : Outcome α :=
  match fields.firstOf? names with
  | some v => item v
  | none => .ok default

end Remedy.Decode
