import Remedy.Failure
import Remedy.Json.Basic

/-!
# Looking into values

What stands under a key. Strict readers fail if a part is absent or of another kind; lenient ones give
the plainest value of the kind asked for.
-/

namespace Remedy.Json

/-! ## Strictly -/

/-- The value under a key, which must be there. -/
def part (v : Json) (key : String) : Outcome Json :=
  match v with
  | .obj fields =>
    match Fields.get? fields key with
    | some w => .ok w
    | none => .error (.missingKey (some key))
  | _ => .error .wrongKind

/-- The items of a list. -/
def listOf : Json → Outcome (List Json)
  | .arr items => .ok items
  | _ => .error .wrongKind

/-- What is met when a value is gone through: items, keys or characters. -/
def each : Json → Outcome (List Json)
  | .arr items => .ok items
  | .obj fields => .ok (fields.map fun (k, _) => .str k)
  | .str s => .ok (s.toList.map fun c => .str (String.singleton c))
  | _ => .error .wrongKind

/-- The entries of an object. -/
def entriesOf : Json → Outcome Fields
  | .obj fields => .ok fields
  | _ => .error .wrongKind

/-- The number of parts of a value. -/
def size : Json → Outcome Nat
  | .arr items => .ok items.length
  | .obj fields => .ok fields.length
  | .str s => .ok s.length
  | _ => .error .wrongKind

/-! ## Leniently -/

/-- The value under a key, or null. -/
def valueAt (v : Json) (key : String) : Json :=
  (v.get? key).getD .null

/-- The text under a key, or the given one. -/
def textOr (v : Json) (key default : String) : String :=
  ((v.get? key).bind text?).getD default

/-- The text under a key. -/
def textAt (v : Json) (key : String) : String :=
  v.textOr key ""

/-- The text under a key, if there is one. -/
def textAt? (v : Json) (key : String) : Option String :=
  (v.get? key).bind text?

/-- The entries of the object under a key. -/
def fieldsAt (v : Json) (key : String) : Fields :=
  ((v.get? key).bind fields?).getD []

/-- The items of the list under a key. -/
def itemsAt (v : Json) (key : String) : List Json :=
  ((v.get? key).bind items?).getD []

/-- The texts in the list under a key. -/
def textsAt (v : Json) (key : String) : List String :=
  (v.itemsAt key).filterMap text?

/-- The entries with texts of the object under a key. -/
def tableAt (v : Json) (key : String) : List (String × String) :=
  (v.fieldsAt key).filterMap fun (k, x) => x.text?.map fun s => (k, s)

/-- The truth value under a key, or the given one. -/
def flagOr (v : Json) (key : String) (default : Bool) : Bool :=
  match v.get? key with
  | some (.bool b) => b
  | _ => default

/-- The whole number under a key, or the given one. -/
def intOr (v : Json) (key : String) (default : Int) : Int :=
  match v.get? key with
  | some (.int n) => n
  | _ => default

/-- The number that a value is. -/
def number? : Json → Option Binary64
  | .real x => some x
  | .int n => some (Binary64.ofInt n)
  | _ => none

/-- The pairs of texts in a list of pairs. -/
def textPairs (items : List Json) : List (String × String) :=
  items.filterMap fun v =>
    match v with
    | .arr [.str a, .str b] => some (a, b)
    | _ => none

mutual

/-- A value with every part that has no parts of its own changed, and every key. -/
def mapLeaves (leaf : Json → Json) (key : String → String) : Json → Json
  | .arr items => .arr (mapLeavesOf leaf key items)
  | .obj fields => .obj (mapLeavesIn leaf key fields)
  | v => leaf v

/-- The same for the items of a list. -/
def mapLeavesOf (leaf : Json → Json) (key : String → String) : List Json → List Json
  | [] => []
  | v :: rest => mapLeaves leaf key v :: mapLeavesOf leaf key rest

/-- The same for the entries of an object. -/
def mapLeavesIn (leaf : Json → Json) (key : String → String) : Fields → Fields
  | [] => []
  | (k, v) :: rest => (key k, mapLeaves leaf key v) :: mapLeavesIn leaf key rest

end

/-- A value with all its texts changed, keys too. -/
def mapTexts (f : String → String) : Json → Json :=
  mapLeaves (fun v => match v with
    | .str s => .str (f s)
    | v => v) f

end Remedy.Json
