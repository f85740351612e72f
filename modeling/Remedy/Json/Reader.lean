import Remedy.Json.Basic
import Remedy.Number.Decimal

/-!
# Reading JSON texts

Reads one value with blanks around it, and nothing after it. A control character inside a string, a
number with a leading zero and a comma before a closing bracket are refused. The words `NaN`,
`Infinity` and `-Infinity` are numbers, and a key that is repeated has its last value.

Each reader takes the characters that are left and gives a value with the characters after it.
-/

namespace Remedy.Json.Reader

/-- The four blanks that may stand between the parts of a text. -/
def isGap (c : Char) : Bool :=
  c == ' ' || c == '\n' || c == '\t' || c == '\r'

/-- Skips blanks. -/
def skip (cs : List Char) : List Char :=
  cs.dropWhile isGap

/-- A word that must stand in front. -/
def word : List Char → List Char → Option (List Char)
  | [], cs => some cs
  | _ :: _, [] => none
  | w :: ws, c :: cs => if w = c then word ws cs else none

/-- The value of a hexadecimal digit. -/
def hexValue? (c : Char) : Option Nat :=
  if '0' ≤ c && c ≤ '9' then some (c.toNat - 48)
  else if 'a' ≤ c && c ≤ 'f' then some (c.toNat - 87)
  else if 'A' ≤ c && c ≤ 'F' then some (c.toNat - 55)
  else none

/-- Four hexadecimal digits. -/
def hex4 : List Char → Option (Nat × List Char)
  | a :: b :: c :: d :: cs => do
    let w ← hexValue? a
    let x ← hexValue? b
    let y ← hexValue? c
    let z ← hexValue? d
    return (((w * 16 + x) * 16 + y) * 16 + z, cs)
  | _ => none

/-- The character of a single-letter escape. -/
def escape? (c : Char) : Option Char :=
  if c == '"' then some '"'
  else if c == '\\' then some '\\'
  else if c == '/' then some '/'
  else if c == 'b' then some (Char.ofNat 8)
  else if c == 'f' then some (Char.ofNat 12)
  else if c == 'n' then some '\n'
  else if c == 'r' then some '\r'
  else if c == 't' then some '\t'
  else none

/-- A numbered escape after its `u`; two halves of a pair make one character. A half that stands alone
is no character, so a text with one cannot be read. -/
def unicodeEscape (cs : List Char) : Option (Char × List Char) := do
  let (n, rest) ← hex4 cs
  if 0xd800 ≤ n && n < 0xdc00 then
    match rest with
    | '\\' :: 'u' :: more =>
      let (m, rest') ← hex4 more
      if 0xdc00 ≤ m && m < 0xe000 then
        return (Char.ofNat (0x10000 + (n - 0xd800) * 0x400 + (m - 0xdc00)), rest')
      else none
    | _ => none
  else if 0xdc00 ≤ n && n < 0xe000 then none
  else return (Char.ofNat n, rest)

/-- The rest of a string after its opening quote. The fuel bounds the number of characters; `acc`
holds the characters read so far, backwards. -/
def stringFrom : Nat → List Char → List Char → Option (List Char × List Char)
  | 0, _, _ => none
  | _, _, [] => none
  | fuel + 1, acc, c :: cs =>
    if c == '"' then some (acc.reverse, cs)
    else if c == '\\' then
      match cs with
      | [] => none
      | 'u' :: more =>
        match unicodeEscape more with
        | some (x, rest) => stringFrom fuel (x :: acc) rest
        | none => none
      | e :: rest =>
        match escape? e with
        | some x => stringFrom fuel (x :: acc) rest
        | none => none
    else if c.toNat < 32 then none
    else stringFrom fuel (c :: acc) cs

/-- A string after its opening quote. -/
def string (cs : List Char) : Option (String × List Char) :=
  (stringFrom (cs.length + 1) [] cs).map fun (s, rest) => (String.ofList s, rest)

/-- The digits in front and what follows them. -/
def digits (cs : List Char) : List Char × List Char :=
  (cs.takeWhile Char.isDigit, cs.dropWhile Char.isDigit)

/-- The digits after a point, if a point with digits follows. -/
def fraction? : List Char → Option (List Char × List Char)
  | '.' :: cs =>
    let (ds, rest) := digits cs
    if ds.isEmpty then none else some (ds, rest)
  | _ => none

/-- The exponent, if a mark with digits follows. -/
def exponent? : List Char → Option (Int × List Char)
  | c :: cs =>
    if c == 'e' || c == 'E' then
      let (negative, rest) := match cs with
        | '-' :: more => (true, more)
        | '+' :: more => (false, more)
        | more => (false, more)
      let (ds, rest) := digits rest
      if ds.isEmpty then none
      else
        let n : Int := Decimal.valueOf ds
        some (if negative then -n else n, rest)
    else none
  | [] => none

/-- The digits before a point: a single zero, or digits that do not begin with one. -/
def whole? : List Char → Option (List Char × List Char)
  | '0' :: more => some (['0'], more)
  | cs =>
    let (ds, more) := digits cs
    if ds.isEmpty then none else some (ds, more)

/-- The double nearest to digits with an exponent. -/
def double (negative : Bool) (ds : List Char) (exp : Int) : Json :=
  .real (Decimal.Scaled.toBinary64 negative ⟨Decimal.valueOf ds, exp⟩)

/-- A number after its sign: digits without a leading zero, then perhaps a fraction and an
exponent, either of which makes it a double. -/
def unsigned (negative : Bool) (cs : List Char) : Option (Json × List Char) :=
  (whole? cs).map fun (whole, rest) =>
    match fraction? rest with
    | some (frac, rest) =>
      let (exp, rest) := (exponent? rest).getD (0, rest)
      (double negative (whole ++ frac) (exp - frac.length), rest)
    | none =>
      match exponent? rest with
      | some (exp, rest) => (double negative whole exp, rest)
      | none =>
        let n : Int := Decimal.valueOf whole
        (.int (if negative then -n else n), rest)

/-- A word or a number. -/
def scalar (cs : List Char) : Option (Json × List Char) :=
  match cs with
  | 'n' :: rest => (word "ull".toList rest).map (Json.null, ·)
  | 't' :: rest => (word "rue".toList rest).map (Json.bool true, ·)
  | 'f' :: rest => (word "alse".toList rest).map (Json.bool false, ·)
  | 'N' :: rest => (word "aN".toList rest).map (Json.real .notANumber, ·)
  | 'I' :: rest => (word "nfinity".toList rest).map (Json.real (.infinite false), ·)
  | '-' :: 'I' :: rest => (word "nfinity".toList rest).map (Json.real (.infinite true), ·)
  | '-' :: rest => unsigned true rest
  | rest => unsigned false rest

mutual

/-- A value with no blanks in front. The fuel bounds the depth and the number of parts. -/
def value : Nat → List Char → Option (Json × List Char)
  | 0, _ => none
  | fuel + 1, cs =>
    match cs with
    | '"' :: rest => (string rest).map fun (s, more) => (Json.str s, more)
    | '[' :: rest =>
      match skip rest with
      | ']' :: more => some (.arr [], more)
      | inside => (items fuel inside).map fun (xs, more) => (Json.arr xs, more)
    | '\x7b' :: rest =>
      match skip rest with
      | '\x7d' :: more => some (.obj [], more)
      | inside => (members fuel inside).map fun (ms, more) => (Json.obj (Fields.ofPairs ms), more)
    | _ => scalar cs

/-- The items of a list, up to and with the closing bracket. -/
def items : Nat → List Char → Option (List Json × List Char)
  | 0, _ => none
  | fuel + 1, cs => do
    let (x, rest) ← value fuel cs
    match skip rest with
    | ',' :: more =>
      let (xs, rest) ← items fuel (skip more)
      return (x :: xs, rest)
    | ']' :: more => return ([x], more)
    | _ => none

/-- The entries of an object, up to and with the closing brace. -/
def members : Nat → List Char → Option (List (String × Json) × List Char)
  | 0, _ => none
  | fuel + 1, cs => do
    let '"' :: rest := cs | none
    let (key, rest) ← string rest
    let ':' :: rest := skip rest | none
    let (x, rest) ← value fuel (skip rest)
    match skip rest with
    | ',' :: more =>
      let (ms, rest) ← members fuel (skip more)
      return ((key, x) :: ms, rest)
    | '\x7d' :: more => return ([(key, x)], more)
    | _ => none

end

end Reader

/-- Reads a JSON text. -/
def parse? (s : String) : Option Json :=
  let cs := s.toList
  match Reader.value (cs.length + 1) (Reader.skip cs) with
  | some (v, rest) => if (Reader.skip rest).isEmpty then some v else none
  | none => none

end Remedy.Json
