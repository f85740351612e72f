import Remedy.Number.Binary64

/-!
# Decimal text of numbers

Whole numbers are written in plain decimal digits. A double is written with the fewest digits that
read back as the same double, the nearest of those if there are several, positionally while the
point stands close to the digits and with an exponent otherwise.
-/

namespace Remedy.Decimal

/-- A decimal number `digits * 10 ^ exponent`. -/
structure Scaled where
  digits : Nat
  exponent : Int
deriving DecidableEq

/-- The digits of a natural number. -/
def naturalChars (n : Nat) : List Char :=
  Nat.toDigits 10 n

/-- A whole number in decimal digits. -/
def intChars : Int → List Char
  | .ofNat n => naturalChars n
  | .negSucc n => '-' :: naturalChars (n + 1)

/-- A whole number as text. -/
def int (n : Int) : String :=
  String.ofList (intChars n)

/-- A natural number as text. -/
def natural (n : Nat) : String :=
  String.ofList (naturalChars n)

/-- The value of a row of decimal digits. -/
def valueOf (digits : List Char) : Nat :=
  digits.foldl (fun acc c => acc * 10 + (c.toNat - 48)) 0

/-- The double nearest to a decimal number. Exponents far outside the range of doubles are decided
without computing the power. -/
def Scaled.toBinary64 (negative : Bool) (x : Scaled) : Binary64 :=
  if x.digits = 0 then Binary64.ofRatio negative 0 1
  else
    let size := x.exponent + (naturalChars x.digits).length
    if 400 < size then .infinite negative
    else if size < -400 then Binary64.ofRatio negative 0 1
    else if x.exponent < 0 then Binary64.ofRatio negative x.digits (Nat.pow 10 x.exponent.natAbs)
    else Binary64.ofRatio negative (x.digits * Nat.pow 10 x.exponent.natAbs) 1

/-- `n / d` divided by `10 ^ k`, rounded down. -/
def floorAt (n d : Nat) (k : Int) : Nat :=
  if k < 0 then n * Nat.pow 10 k.natAbs / d else n / (d * Nat.pow 10 k.natAbs)

/-- `n / d` lies nearer to `(a + 1) * 10 ^ k` than to `a * 10 ^ k`. -/
def upperNearer (n d a : Nat) (k : Int) : Bool :=
  if k < 0 then (2 * a + 1) * d < 2 * n * Nat.pow 10 k.natAbs
  else (2 * a + 1) * d * Nat.pow 10 k.natAbs < 2 * n

/-- The decimal exponent of the leading digit of `n / d`, found upwards from a lower bound. -/
def leadingExponent (n d : Nat) : Nat → Int → Int
  | 0, k => k
  | fuel + 1, k => if floorAt n d (k + 1) = 0 then k else leadingExponent n d fuel (k + 1)

/-- A lower bound of the decimal exponent of `n / d`, at most four below it: a power of two is at
least the power of ten with `0.30103` times its exponent, rounded down. -/
def leadingBound (n d : Nat) : Int :=
  Int.fdiv (((n.log2 : Int) - (d.log2 : Int) - 1) * 30103) 100000 - 1

/-- The better of the two neighbours of `x = n / d` on the grid of multiples of `10 ^ k`, among those
that read back as `x`. -/
def onGrid? (x : Binary64) (negative : Bool) (n d : Nat) (k : Int) : Option Scaled :=
  let low : Scaled := ⟨floorAt n d k, k⟩
  let high : Scaled := ⟨floorAt n d k + 1, k⟩
  let lowOk := low.digits != 0 && low.toBinary64 negative == x
  let highOk := high.toBinary64 negative == x
  if lowOk && highOk then some (if upperNearer n d low.digits k then high else low)
  else if lowOk then some low
  else if highOk then some high
  else none

/-- Every digit of a finite double. -/
def exact (mantissa : Nat) (exponent : Int) : Scaled :=
  if exponent < 0 then ⟨mantissa * Nat.pow 5 exponent.natAbs, exponent⟩
  else ⟨mantissa * Nat.pow 2 exponent.natAbs, 0⟩

/-- Drops zeros at the end of the digits. -/
def dropZeros : Nat → Scaled → Scaled
  | 0, x => x
  | fuel + 1, x =>
    if x.digits != 0 && x.digits % 10 == 0 then dropZeros fuel ⟨x.digits / 10, x.exponent + 1⟩
    else x

/-- The decimal with the fewest digits that reads back as the given positive double. -/
def shortest (negative : Bool) (mantissa : Nat) (exponent : Int) (x : Binary64) : Scaled :=
  let (n, d) := if exponent < 0 then (mantissa, Nat.pow 2 exponent.natAbs)
    else (mantissa * Nat.pow 2 exponent.natAbs, 1)
  let lead := leadingExponent n d 5 (leadingBound n d)
  let found := (List.range 17).findSome? fun (i : Nat) => onGrid? x negative n d (lead - (i : Int))
  dropZeros 400 (found.getD (exact mantissa exponent))

/-- How decimals are laid out: the places of the point, counted from the first digit, between which
no exponent is written; the least number of digits of an exponent; and the words for the values
that have no digits. -/
structure Layout where
  lowestPoint : Int
  highestPoint : Int
  exponentDigits : Nat
  notANumber : String
  infinite : String

/-- Doubles are written positionally from `0.0001` up to sixteen digits before the point, with `.0`
after a whole number; exponents have a sign and at least two digits. -/
def plain : Layout := ⟨-3, 16, 2, "nan", "inf"⟩

/-- The layout inside JSON texts, which differs only in the words. -/
def inJson : Layout := { plain with notANumber := "NaN", infinite := "Infinity" }

/-- An exponent with its sign and at least the given number of digits. -/
def exponentChars (width : Nat) (e : Int) : List Char :=
  let ds := naturalChars e.natAbs
  (if e < 0 then '-' else '+') :: List.replicate (width - ds.length) '0' ++ ds

/-- Lays out digits with the point `point` places after the first digit's left edge. -/
def layOut (layout : Layout) (ds : List Char) (point : Int) : List Char :=
  if layout.lowestPoint ≤ point && point ≤ layout.highestPoint then
    if point ≤ 0 then '0' :: '.' :: List.replicate point.natAbs '0' ++ ds
    else
      let p := point.toNat
      if ds.length ≤ p then ds ++ List.replicate (p - ds.length) '0' ++ ['.', '0']
      else ds.take p ++ '.' :: ds.drop p
  else
    let tail := ds.drop 1
    ds.take 1 ++ (if tail.isEmpty then [] else '.' :: tail) ++
      'e' :: exponentChars layout.exponentDigits (point - 1)

/-- A double in the given layout. -/
def binary64Chars (layout : Layout) : Binary64 → List Char
  | .notANumber => layout.notANumber.toList
  | .infinite negative => (if negative then ['-'] else []) ++ layout.infinite.toList
  | .finite negative m e h =>
    let body :=
      if m = 0 then ['0', '.', '0']
      else
        let s := shortest negative m e (.finite negative m e h)
        let ds := naturalChars s.digits
        layOut layout ds (s.exponent + ds.length)
    (if negative then ['-'] else []) ++ body

/-- A double as text. -/
def binary64 (layout : Layout) (x : Binary64) : String :=
  String.ofList (binary64Chars layout x)

end Remedy.Decimal
