import Remedy.Json.Writer
import Remedy.Failure

/-!
# Comparing and sorting JSON values

Values are equal by what they mean: the order of entries does not matter, and numbers and truth
values compare by value. Numbers, texts and lists have an order among themselves; nothing else has.
`deepSort` puts every list and every object inside a value in order, and fails when it compares two
items of a list that have no order.
-/

namespace Remedy.Json

/-- The number that a value stands for in comparisons: truth values count as one and zero. -/
inductive Quantity where
  | whole (n : Int)
  | double (x : Binary64)

/-- The number that a value stands for. -/
def quantity? : Json → Option Quantity
  | .bool b => some (.whole (if b then 1 else 0))
  | .int n => some (.whole n)
  | .real x => some (.double x)
  | _ => none

namespace Quantity

/-- Whole numbers compare with doubles exactly. -/
def compare? : Quantity → Quantity → Option Ordering
  | .whole a, .whole b => some (compare a b)
  | .double x, .double y =>
    if x.lt y then some .lt else if y.lt x then some .gt
    else if x.sameValue y then some .eq else none
  | .whole a, .double y => compareWhole a y
  | .double x, .whole b => (compareWhole b x).map Ordering.swap
where
  /-- A whole number beside a double. -/
  compareWhole (a : Int) (y : Binary64) : Option Ordering :=
    match y with
    | .notANumber => none
    | .infinite negative => some (if negative then .gt else .lt)
    | y =>
      match y.ratio? with
      | some (n, d) => some (compare (a * d) n)
      | none => none

end Quantity

mutual

/-- Two values mean the same. -/
def sameValue : Json → Json → Bool
  | .null, b => match b with
    | .null => true
    | _ => false
  | .str s, b => match b with
    | .str t => s == t
    | _ => false
  | .arr xs, b => match b with
    | .arr ys => sameItems xs ys
    | _ => false
  | .obj xs, b => match b with
    | .obj ys => xs.length == ys.length && sameFields xs ys
    | _ => false
  | .bool x, b => sameQuantity (.whole (if x then 1 else 0)) b
  | .int n, b => sameQuantity (.whole n) b
  | .real x, b => sameQuantity (.double x) b

/-- Lists with the same items in the same places. -/
def sameItems : List Json → List Json → Bool
  | [], [] => true
  | x :: xs, y :: ys => sameValue x y && sameItems xs ys
  | _, _ => false

/-- Each entry of the first has an entry with the same value in the second. -/
def sameFields : List (String × Json) → List (String × Json) → Bool
  | [], _ => true
  | (k, v) :: rest, ys =>
    (match ys.lookup k with
      | some w => sameValue v w
      | none => false) && sameFields rest ys

/-- A number and a value mean the same. -/
def sameQuantity (q : Quantity) (b : Json) : Bool :=
  match b.quantity? with
  | some r => q.compare? r == some .eq
  | none => false

end

/-- The order of two texts by code points. -/
def compareText (s t : String) : Ordering :=
  compareOfLessAndEq (s.toList.map Char.toNat) (t.toList.map Char.toNat)

mutual

/-- The order of two values, if they have one. -/
def order? : Json → Json → Option Ordering
  | .str s, b => match b with
    | .str t => some (compareText s t)
    | _ => none
  | .arr xs, b => match b with
    | .arr ys => orderItems? xs ys
    | _ => none
  | .bool x, b => orderQuantity? (.whole (if x then 1 else 0)) b
  | .int n, b => orderQuantity? (.whole n) b
  | .real x, b => orderQuantity? (.double x) b
  | .null, _ => none
  | .obj _, _ => none

/-- The order of two lists is that of the first items that differ; a beginning comes before the
whole. -/
def orderItems? : List Json → List Json → Option Ordering
  | [], [] => some .eq
  | [], _ :: _ => some .lt
  | _ :: _, [] => some .gt
  | x :: xs, y :: ys => if sameValue x y then orderItems? xs ys else order? x y

/-- The order of a number and a value. -/
def orderQuantity? (q : Quantity) (b : Json) : Option Ordering :=
  match b.quantity? with
  | some r => q.compare? r
  | none => none

end

/-- The first value comes before the second. Values that have no order cannot be compared. -/
def less (a b : Json) : Outcome Bool :=
  match order? a b with
  | some o => .ok (o == .lt)
  | none => .error .wrongKind

theorem length_of_drop_half {ys back : List Json} {y : Json}
    (h : ys.drop (ys.length / 2) = y :: back) :
    (ys.take (ys.length / 2)).length < ys.length ∧ back.length < ys.length := by
  have hlen : ys.length - ys.length / 2 = back.length + 1 := by
    rw [← List.length_drop, h, List.length_cons]
  rw [List.length_take]
  omega

/-- Puts a value into a sorted list, behind all items that it does not come before. It is compared
with the item in the middle, and then put into the half where it belongs. -/
def insertSorted (x : Json) (ys : List Json) : Outcome (List Json) :=
  match h : ys.drop (ys.length / 2) with
  | [] => .ok [x]
  | y :: back =>
    have := length_of_drop_half h
    do
      if ← less x y then return (← insertSorted x (ys.take (ys.length / 2))) ++ y :: back
      else return ys.take (ys.length / 2) ++ y :: (← insertSorted x back)
termination_by ys.length
decreasing_by
  · exact this.1
  · exact this.2

/-- Sorts a list: each item is put in its place among those before it. Fails at the first two items
that are compared and have no order. -/
def sortItems (xs : List Json) : Outcome (List Json) :=
  xs.foldlM (fun sorted x => insertSorted x sorted) []

mutual

/-- Sorts every list and every object inside a value (`deep_sort`). -/
def deepSort : Json → Outcome Json
  | .arr xs => do
    let ys ← deepSortItems xs
    let zs ← sortItems ys
    return .arr zs
  | .obj fields => do
    let sorted ← deepSortFields fields
    return .obj (sortFields sorted)
  | .null => .ok .null
  | .bool b => .ok (.bool b)
  | .int n => .ok (.int n)
  | .real x => .ok (.real x)
  | .str s => .ok (.str s)

/-- `deepSort` of each item. -/
def deepSortItems : List Json → Outcome (List Json)
  | [] => .ok []
  | x :: xs => do
    let y ← deepSort x
    let ys ← deepSortItems xs
    return y :: ys

/-- `deepSort` of each entry's value. -/
def deepSortFields : List (String × Json) → Outcome (List (String × Json))
  | [] => .ok []
  | (k, v) :: rest => do
    let w ← deepSort v
    let ws ← deepSortFields rest
    return (k, w) :: ws

end

end Remedy.Json
