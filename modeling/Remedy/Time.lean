import Remedy.Number.Binary64
import Remedy.Number.Decimal

/-!
# Dates and times

The date and the time of day of a moment that is given in seconds since the beginning of 1970, in
the calendar with leap years every four years except in centuries that four hundred does not divide.
-/

namespace Remedy

/-- A date and a time of day. -/
structure DateTime where
  year : Int
  month : Nat
  day : Nat
  hour : Nat
  minute : Nat
  second : Nat
deriving DecidableEq, Repr

namespace DateTime

/-- The date of a day counted from the first of January 1970. Years are taken to begin in March, so
that a leap day is the last day of its year, and are grouped by four hundred. -/
def dateOf (days : Int) : Int × Nat × Nat :=
  let shifted := days + 719468
  let era := shifted.fdiv 146097
  let inEra := (shifted.fmod 146097).toNat
  let yearInEra := (inEra - inEra / 1460 + inEra / 36524 - inEra / 146096) / 365
  let inYear := inEra - (365 * yearInEra + yearInEra / 4 - yearInEra / 100)
  let marchMonth := (5 * inYear + 2) / 153
  let day := inYear - (153 * marchMonth + 2) / 5 + 1
  let month := if marchMonth < 10 then marchMonth + 3 else marchMonth - 9
  let year : Int := yearInEra + era * 400
  (if month ≤ 2 then year + 1 else year, month, day)

/-- The date and time of a moment in whole seconds. -/
def ofSeconds (seconds : Int) : DateTime :=
  let (year, month, day) := dateOf (seconds.fdiv 86400)
  let rest := (seconds.fmod 86400).toNat
  { year, month, day, hour := rest / 3600, minute := rest / 60 % 60, second := rest % 60 }

/-- The whole seconds of a moment: a fraction is dropped towards the past. -/
def wholeSeconds (x : Binary64) : Int :=
  match x.ratio? with
  | some (n, d) => n.fdiv d
  | none => 0

/-- A number with zeros in front up to a width. -/
def padded (width : Nat) (n : Nat) : String :=
  let digits := Decimal.natural n
  String.ofList (List.replicate (width - digits.length) '0') ++ digits

/-- A date and a time, with the given text between them. -/
def text (between : String) (t : DateTime) : String :=
  (if t.year < 0 then Decimal.int t.year else padded 4 t.year.toNat) ++ "-" ++ padded 2 t.month ++
    "-" ++ padded 2 t.day ++ between ++ padded 2 t.hour ++ ":" ++ padded 2 t.minute ++ ":" ++
    padded 2 t.second

end DateTime
end Remedy
