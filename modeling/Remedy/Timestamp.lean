import Remedy.Json.Decode
import Remedy.Text.Search
import Remedy.Time

/-!
# Timestamps

Dates with a time to the microsecond, perhaps with a distance from universal time, in their written
form: a date, a separator and a time of day, with as many parts of the time as are given.
-/

namespace Remedy

/-- A date and a time, perhaps with the distance from universal time in seconds. -/
structure Timestamp where
  moment : DateTime
  micros : Nat := 0
  offset : Option Int := none
deriving DecidableEq, Repr

namespace Timestamp

/-- The time that a clock shows, to the microsecond. -/
def ofClock (reading : Binary64) : Timestamp :=
  let micros := DateTime.wholeSeconds (reading.times (Nat.pow 10 6))
  { moment := DateTime.ofSeconds (micros.fdiv (Nat.pow 10 6))
    micros := (micros.fmod (Nat.pow 10 6)).toNat }

/-- Reads a number of exactly the given count of digits. -/
def number? (count : Nat) (cs : List Char) : Option (Nat × List Char) :=
  let digits := cs.take count
  if digits.length == count && digits.all Char.isDigit then
    some (Decimal.valueOf digits, cs.drop count)
  else none

/-- Reads a character. -/
def char? (c : Char) : List Char → Option (List Char)
  | [] => none
  | d :: rest => if c = d then some rest else none

/-- The days of a month. -/
def daysIn (year month : Nat) : Nat :=
  if month == 2 then
    if year % 4 == 0 && (year % 100 != 0 || year % 400 == 0) then 29 else 28
  else if [4, 6, 9, 11].contains month then 30
  else 31

/-- Reads a date. -/
def date? (cs : List Char) : Option ((Nat × Nat × Nat) × List Char) := do
  let (year, cs) ← number? 4 cs
  let cs ← char? '-' cs
  let (month, cs) ← number? 2 cs
  let cs ← char? '-' cs
  let (day, cs) ← number? 2 cs
  guard (1 ≤ year && 1 ≤ month && month ≤ 12 && 1 ≤ day && day ≤ daysIn year month)
  return ((year, month, day), cs)

/-- Reads a further part of a time, after a colon; without a colon there is none. -/
def nextPart? (cs : List Char) : Option (Option Nat × List Char) :=
  match cs with
  | ':' :: rest => (number? 2 rest).map fun (n, after) => (some n, after)
  | _ => some (none, cs)

/-- Reads a fraction of a second, to the microsecond; further digits are dropped. -/
def fraction? (cs : List Char) : Option (Nat × List Char) :=
  match cs with
  | mark :: rest =>
    if mark == '.' || mark == ',' then
      let digits := rest.takeWhile Char.isDigit
      if digits.isEmpty then none
      else some (Decimal.valueOf ((digits ++ List.replicate 6 '0').take 6),
        rest.dropWhile Char.isDigit)
    else some (0, cs)
  | [] => some (0, cs)

/-- Reads hours, and minutes and seconds if they are given. -/
def clock? (cs : List Char) : Option ((Nat × Nat × Nat) × List Char) := do
  let (hour, cs) ← number? 2 cs
  let (minute, cs) ← nextPart? cs
  match minute with
  | none => return ((hour, 0, 0), cs)
  | some m =>
    let (second, cs) ← nextPart? cs
    return ((hour, m, second.getD 0), cs)

/-- Reads the distance from universal time. -/
def offset? (cs : List Char) : Option (Option Int) :=
  match cs with
  | [] => some none
  | ['Z'] => some (some 0)
  | sign :: rest =>
    if sign == '+' || sign == '-' then do
      let ((hour, minute, second), left) ← clock? rest
      guard (left.isEmpty && hour < 24 && minute < 60 && second < 60)
      let distance : Int := hour * 3600 + minute * 60 + second
      return some (if sign == '-' then -distance else distance)
    else none

/-- Reads a timestamp. A date alone is its midnight. -/
def ofText? (s : String) : Option Timestamp := do
  let ((year, month, day), cs) ← date? s.toList
  match cs with
  | [] => return { moment := ⟨year, month, day, 0, 0, 0⟩ }
  | _ :: rest =>
    let ((hour, minute, second), cs) ← clock? rest
    guard (hour < 24 && minute < 60 && second < 60)
    let (micros, cs) ← fraction? cs
    let offset ← offset? cs
    return { moment := ⟨year, month, day, hour, minute, second⟩, micros, offset }

/-- The distance from universal time as it is written. -/
def offsetText (seconds : Int) : String :=
  let n := seconds.natAbs
  (if seconds < 0 then "-" else "+") ++ DateTime.padded 2 (n / 3600) ++ ":" ++
    DateTime.padded 2 (n / 60 % 60) ++
    (if n % 60 == 0 then "" else ":" ++ DateTime.padded 2 (n % 60))

/-- The written form of a timestamp. -/
def text (t : Timestamp) : String :=
  t.moment.text "T" ++ (if t.micros == 0 then "" else "." ++ DateTime.padded 6 t.micros) ++
    (match t.offset with
      | some seconds => offsetText seconds
      | none => "")

/-- Reads a timestamp from a value. -/
def decode : Json → Outcome Timestamp
  | .str s =>
    match ofText? s with
    | some t => .ok t
    | none => Decode.invalid
  | _ => Decode.invalid

end Timestamp
end Remedy
