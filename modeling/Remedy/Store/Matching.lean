import Remedy.Json.Order

/-!
# Matching stored variables

How a query for solved incidents compares the variables it asks for with the variables of a stored
incident. The embedded database flattens both objects to rows of a key and a value and compares the
first rows; the server database asks for containment both ways.
-/

namespace Remedy.Store

/-- A key of a flattened row: the place in a list, or the name in an object. -/
inductive RowKey where
  | place (n : Nat)
  | name (s : String)

/-- A value of a flattened row. A list is kept as its text. -/
inductive RowValue where
  | absent
  | number (q : Json.Quantity)
  | text (s : String)

/-- A row of a flattened object. -/
structure Row where
  key : RowKey
  value : RowValue

/-- The first whole number `2 ^ 63` that does not fit into 64 bits. -/
def wordBound : Int := 9223372036854775808

/-- Whole numbers beyond 64 bits are kept as doubles. -/
def rowNumber (n : Int) : RowValue :=
  if -wordBound ≤ n && n < wordBound then .number (.whole n) else .number (.double (Binary64.ofInt n))

mutual

/-- The rows of a value that stands under a key: an object gives none of its own. -/
def rowsOf (key : RowKey) : Json → List Row
  | .null => [⟨key, .absent⟩]
  | .bool b => [⟨key, .number (.whole (if b then 1 else 0))⟩]
  | .int n => [⟨key, rowNumber n⟩]
  | .real x => [⟨key, .number (.double x)⟩]
  | .str s => [⟨key, .text s⟩]
  | .arr xs => ⟨key, .text (Json.render Json.compact (.arr xs))⟩ :: rowsOfItems 0 xs
  | .obj fields => rowsOfFields fields

/-- The rows of the items of a list, keyed by place. -/
def rowsOfItems (i : Nat) : List Json → List Row
  | [] => []
  | x :: xs => rowsOf (.place i) x ++ rowsOfItems (i + 1) xs

/-- The rows of the entries of an object, keyed by name. -/
def rowsOfFields : List (String × Json) → List Row
  | [] => []
  | (k, v) :: rest => rowsOf (.name k) v ++ rowsOfFields rest

end

/-- Places come before names. -/
def RowKey.compare : RowKey → RowKey → Ordering
  | .place a, .place b => Ord.compare a b
  | .place _, .name _ => .lt
  | .name _, .place _ => .gt
  | .name s, .name t => Json.compareText s t

/-- Absent values come first, then numbers, then texts. -/
def RowValue.compare : RowValue → RowValue → Ordering
  | .absent, .absent => .eq
  | .absent, _ => .lt
  | _, .absent => .gt
  | .number a, .number b => (a.compare? b).getD .eq
  | .number _, .text _ => .lt
  | .text _, .number _ => .gt
  | .text s, .text t => Json.compareText s t

/-- Rows are ordered by key, then by value. -/
def Row.compare (a b : Row) : Ordering :=
  (a.key.compare b.key).then (a.value.compare b.value)

/-- The first row of a flattened object. -/
def firstRow? (fields : Fields) : Option Row :=
  (rowsOfFields fields).foldl
    (fun best row =>
      match best with
      | none => some row
      | some b => if row.compare b == .lt then some row else some b)
    none

/-- An absent value equals nothing. -/
def RowValue.isAbsent : RowValue → Bool
  | .absent => true
  | _ => false

/-- The embedded database finds stored variables equal to those asked for when both have a first row,
the first rows have the same key and value, and the value is present (`json_exactly_equal`). -/
def embeddedMatch (stored asked : Fields) : Bool :=
  match firstRow? stored, firstRow? asked with
  | some a, some b => !a.value.isAbsent && a.compare b == .eq
  | _, _ => false

end Remedy.Store
