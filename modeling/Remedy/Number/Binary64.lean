/-!
# Double-precision numbers

A double is a sign, a whole mantissa and a power of two, in the one form that the format allows, or
one of the infinities, or no number. Everything is computed in whole numbers: a real `n / d` is
rounded to the nearest double, a tie to the even mantissa.
-/

namespace Remedy

/-- The one form of a mantissa and an exponent: 53 bits, the leading one set unless the exponent is
the least. -/
def Binary64.Canonical (mantissa : Nat) (exponent : Int) : Prop :=
  mantissa < Nat.pow 2 53 ∧ -1074 ≤ exponent ∧ exponent ≤ 971 ∧
    (Nat.pow 2 52 ≤ mantissa ∨ exponent = -1074)

instance (mantissa : Nat) (exponent : Int) : Decidable (Binary64.Canonical mantissa exponent) := by
  unfold Binary64.Canonical
  infer_instance

/-- A double: `finite s m e` is `m * 2 ^ e`, negative if `s`. -/
inductive Binary64 where
  | notANumber
  | infinite (negative : Bool)
  | finite (negative : Bool) (mantissa : Nat) (exponent : Int)
      (canonical : Binary64.Canonical mantissa exponent)
deriving DecidableEq

namespace Binary64

/-- The quotient rounded to the nearest whole number, a tie to the even one. -/
def roundDiv (n d : Nat) : Nat :=
  let q := n / d
  let r := n % d
  if 2 * r < d then q
  else if d < 2 * r then q + 1
  else if q % 2 = 0 then q else q + 1

/-- A mantissa and an exponent brought into the allowed form, or the infinity of that sign. -/
def pack (negative : Bool) (mantissa : Nat) (exponent : Int) : Binary64 :=
  let (m, e) := if mantissa = Nat.pow 2 53 then (Nat.pow 2 52, exponent + 1) else (mantissa, exponent)
  if h : Canonical m e then .finite negative m e h else .infinite negative

/-- `n / (d * 2 ^ e)` rounded to a whole number. -/
def scaledRound (n d : Nat) (e : Int) : Nat :=
  if e < 0 then roundDiv (n * Nat.pow 2 e.natAbs) d else roundDiv n (d * Nat.pow 2 e.natAbs)

/-- The exponent that gives `n / d` a mantissa of 53 bits, or the least exponent. -/
def exponentFor (n d : Nat) : Int :=
  let guess : Int := (n.log2 : Int) - (d.log2 : Int) - 52
  let fits :=
    if guess < 0 then d * Nat.pow 2 52 ≤ n * Nat.pow 2 guess.natAbs
    else d * Nat.pow 2 guess.natAbs * Nat.pow 2 52 ≤ n
  max (-1074) (if fits then guess else guess - 1)

/-- The double nearest to `n / d`. -/
def ofRatio (negative : Bool) (n d : Nat) : Binary64 :=
  if n = 0 then pack negative 0 (-1074)
  else
    let e := exponentFor n d
    pack negative (scaledRound n d e) e

/-- The double nearest to a whole number. -/
def ofInt (n : Int) : Binary64 :=
  ofRatio (n < 0) n.natAbs 1

/-- Zero. -/
def zero : Binary64 := pack false 0 (-1074)

/-- The exact value of a finite double as a numerator and a positive denominator. -/
def ratio? : Binary64 → Option (Int × Nat)
  | .finite negative m e _ =>
    let n : Int := if negative then -(m : Int) else m
    if e < 0 then some (n, Nat.pow 2 e.natAbs) else some (n * (Nat.pow 2 e.natAbs : Nat), 1)
  | _ => none

/-- The difference of two doubles, rounded to the nearest. -/
def sub (x y : Binary64) : Binary64 :=
  match x.ratio?, y.ratio? with
  | some (a, b), some (c, d) =>
    let n := a * d - c * b
    ofRatio (n < 0) n.natAbs (b * d)
  | some _, none =>
    match y with
    | .infinite negative => .infinite (!negative)
    | other => other
  | none, some _ => x
  | none, none =>
    match x, y with
    | .infinite a, .infinite b => if a == b then .notANumber else .infinite a
    | _, _ => .notANumber

/-- So many times a double, rounded to the nearest. -/
def times (count : Nat) (x : Binary64) : Binary64 :=
  match x.ratio? with
  | some (a, b) => ofRatio (a < 0) (a.natAbs * count) b
  | none => x

/-- `a / b < c / d` for positive denominators. -/
def ratioLt (x y : Int × Nat) : Bool :=
  x.1 * (y.2 : Int) < y.1 * (x.2 : Int)

/-- One double is less than another; nothing is less than, or more than, what is no number. -/
def lt (x y : Binary64) : Bool :=
  match x, y with
  | .notANumber, _ => false
  | _, .notANumber => false
  | .infinite a, .infinite b => a && !b
  | .infinite a, _ => a
  | _, .infinite b => !b
  | x, y =>
    match x.ratio?, y.ratio? with
    | some p, some q => ratioLt p q
    | _, _ => false

/-- Two doubles have the same value: both zeros are one value, and what is no number has none. -/
def sameValue (x y : Binary64) : Bool :=
  match x, y with
  | .notANumber, _ => false
  | _, .notANumber => false
  | .infinite a, .infinite b => a == b
  | x, y =>
    match x.ratio?, y.ratio? with
    | some (a, b), some (c, d) => a * d == c * b
    | _, _ => false

end Binary64
end Remedy
