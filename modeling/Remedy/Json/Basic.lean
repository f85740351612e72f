import Remedy.Number.Binary64

/-!
# JSON values

Values of the data format in which reports, requests, variables and configurations come. An object
keeps its entries in the order in which they were written, and whole numbers are kept apart from
doubles and have no bound.
-/

namespace Remedy

/-- A JSON value. -/
inductive Json where
  | null
  | bool (b : Bool)
  | int (n : Int)
  | real (x : Binary64)
  | str (s : String)
  | arr (items : List Json)
  | obj (fields : List (String × Json))
deriving Inhabited

/-- The entries of an object, in order. -/
abbrev Fields := List (String × Json)

namespace Json

mutual

/-- Equality of values can be decided. -/
def decideEq : (a b : Json) → Decidable (a = b)
  | .null, b => match b with
    | .null => isTrue rfl
    | .bool _ | .int _ | .real _ | .str _ | .arr _ | .obj _ => isFalse (by simp)
  | .bool x, b => match b with
    | .bool y => decidable_of_iff (x = y) (by simp)
    | .null | .int _ | .real _ | .str _ | .arr _ | .obj _ => isFalse (by simp)
  | .int x, b => match b with
    | .int y => decidable_of_iff (x = y) (by simp)
    | .null | .bool _ | .real _ | .str _ | .arr _ | .obj _ => isFalse (by simp)
  | .real x, b => match b with
    | .real y => decidable_of_iff (x = y) (by simp)
    | .null | .bool _ | .int _ | .str _ | .arr _ | .obj _ => isFalse (by simp)
  | .str x, b => match b with
    | .str y => decidable_of_iff (x = y) (by simp)
    | .null | .bool _ | .int _ | .real _ | .arr _ | .obj _ => isFalse (by simp)
  | .arr xs, b => match b with
    | .arr ys =>
      match decideEqItems xs ys with
      | isTrue h => isTrue (by rw [h])
      | isFalse h => isFalse (by simpa using h)
    | .null | .bool _ | .int _ | .real _ | .str _ | .obj _ => isFalse (by simp)
  | .obj xs, b => match b with
    | .obj ys =>
      match decideEqFields xs ys with
      | isTrue h => isTrue (by rw [h])
      | isFalse h => isFalse (by simpa using h)
    | .null | .bool _ | .int _ | .real _ | .str _ | .arr _ => isFalse (by simp)

/-- Equality of lists of values can be decided. -/
def decideEqItems : (a b : List Json) → Decidable (a = b)
  | [], [] => isTrue rfl
  | [], _ :: _ => isFalse (by simp)
  | _ :: _, [] => isFalse (by simp)
  | x :: xs, y :: ys =>
    match decideEq x y, decideEqItems xs ys with
    | isTrue h, isTrue t => isTrue (by rw [h, t])
    | isFalse h, _ => isFalse (by simp [h])
    | _, isFalse t => isFalse (by simp [t])

/-- Equality of entries can be decided. -/
def decideEqFields : (a b : List (String × Json)) → Decidable (a = b)
  | [], [] => isTrue rfl
  | [], _ :: _ => isFalse (by simp)
  | _ :: _, [] => isFalse (by simp)
  | (j, x) :: xs, (k, y) :: ys =>
    if hk : j = k then
      match decideEq x y, decideEqFields xs ys with
      | isTrue h, isTrue t => isTrue (by rw [hk, h, t])
      | isFalse h, _ => isFalse (by simp [h])
      | _, isFalse t => isFalse (by simp [t])
    else isFalse (by simp [hk])

end

instance : DecidableEq Json := decideEq

end Json

namespace Fields

/-- The value under a key. -/
def get? (fields : Fields) (key : String) : Option Json :=
  fields.lookup key

/-- The key is present. -/
def has (fields : Fields) (key : String) : Bool :=
  (fields.lookup key).isSome

/-- Sets the value under a key: in its place if the key is present, otherwise at the end. -/
def set : Fields → String → Json → Fields
  | [], key, value => [(key, value)]
  | (k, v) :: rest, key, value =>
    if k = key then (k, value) :: rest else (k, v) :: set rest key value

/-- Drops the entry under a key. -/
def erase (fields : Fields) (key : String) : Fields :=
  fields.filter fun (k, _) => k != key

/-- The first of several keys that is present, with its value. -/
def firstOf? (fields : Fields) (keys : List String) : Option Json :=
  keys.findSome? fields.get?

/-- The keys, in order. -/
def keys (fields : Fields) : List String :=
  fields.map Prod.fst

/-- Entries in which a key that is repeated has its last value, at its first place. -/
def ofPairs (pairs : List (String × Json)) : Fields :=
  pairs.foldl (fun acc (k, v) => Fields.set acc k v) []

end Fields

namespace Json

/-- The entries of an object; no other value has entries. -/
def fields? : Json → Option Fields
  | .obj fields => some fields
  | _ => none

/-- The items of a list. -/
def items? : Json → Option (List Json)
  | .arr items => some items
  | _ => none

/-- The text of a string value. -/
def text? : Json → Option String
  | .str s => some s
  | _ => none

/-- The value under a key of an object. -/
def get? (v : Json) (key : String) : Option Json :=
  v.fields?.bind (·.get? key)

/-- A list of texts. -/
def texts (ss : List String) : Json :=
  .arr (ss.map .str)

/-- A text that may be absent. -/
def ofText? : Option String → Json
  | some s => .str s
  | none => .null

/-- A value counts as set when it is neither null, false, zero nor empty. -/
def isSet : Json → Bool
  | .null => false
  | .bool b => b
  | .int n => n != 0
  | .real x => !x.sameValue Binary64.zero
  | .str s => !s.isEmpty
  | .arr items => !items.isEmpty
  | .obj fields => !fields.isEmpty

end Json
end Remedy
