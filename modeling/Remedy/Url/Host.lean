import Remedy.Text.Quoted
import Remedy.Text.Search
import Remedy.Failure

/-!
# Bracketed hosts

The host of an address may stand in square brackets: then it is an address of version six or of a
future version. Which texts are such addresses is decided here.
-/

namespace Remedy.Url

/-- One of the four numbers of a dotted address: up to three digits without a leading zero, at most
255. -/
def isOctet (s : String) : Bool :=
  let cs := s.toList
  !cs.isEmpty && cs.all Char.isDigit && cs.length ≤ 3 && (s == "0" || cs.head? != some '0') &&
    cs.foldl (fun acc c => acc * 10 + (c.toNat - 48)) 0 ≤ 255

/-- Four numbers with points between them. -/
def isDotted (s : String) : Bool :=
  let parts := Text.split s "."
  parts.length == 4 && parts.all isOctet

/-- A hexadecimal digit of either case. -/
def isHexDigit (c : Char) : Bool :=
  c.isDigit || ('a' ≤ c && c ≤ 'f') || ('A' ≤ c && c ≤ 'F')

/-- One to four hexadecimal digits. -/
def isHextet (s : String) : Bool :=
  let cs := s.toList
  !cs.isEmpty && cs.all isHexDigit && cs.length ≤ 4

/-- The parts of a version six address between its colons; a dotted address at the end counts as two
parts. -/
def addressParts? (s : String) : Option (List String) :=
  let parts := Text.split s ":"
  if parts.length < 3 then none
  else
    match parts.getLast? with
    | some last =>
      if Text.contains last "." then
        if isDotted last then some (parts.dropLast ++ ["0", "0"]) else none
      else some parts
    | none => none

/-- The places of empty parts between the first part and the last. -/
def innerGaps (parts : List String) : List Nat :=
  (List.range parts.length).filter fun i =>
    0 < i && i + 1 < parts.length && (parts[i]?.getD "").isEmpty

/-- The parts form an address: eight of them, or fewer with one gap that stands for the missing
ones. An empty part at an end belongs to such a gap. -/
def partsFormAddress (parts : List String) : Bool :=
  if 9 < parts.length then false
  else
    match innerGaps parts with
    | [] => parts.length == 8 && parts.all isHextet
    | [gap] =>
      let front := parts.take gap
      let back := parts.drop (gap + 1)
      let front' := if front.head? == some "" then front.drop 1 else front
      let back' := if back.getLast? == some "" then back.dropLast else back
      let frontOk := front.head? != some "" || front'.isEmpty
      let backOk := back.getLast? != some "" || back'.isEmpty
      frontOk && backOk && front'.length + back'.length ≤ 7 && front'.all isHextet &&
        back'.all isHextet
    | _ => false

/-- A version six address, perhaps with a zone after a percent sign. -/
def isVersionSix (s : String) : Bool :=
  let address? := match Text.cutAt? s "%" with
    | some (address, zone) => if zone.isEmpty || Text.contains zone "%" then none else some address
    | none => some s
  match address?.bind addressParts? with
  | some parts => partsFormAddress parts
  | none => false

/-- An address of a future version: `v`, hexadecimal digits, a point and something more. -/
def isFutureVersion (s : String) : Bool :=
  match s.toList with
  | 'v' :: rest =>
    let tail := rest.dropWhile isHexDigit
    !(rest.takeWhile isHexDigit).isEmpty && tail.head? == some '.' && 2 ≤ tail.length
  | _ => false

/-- What may stand in brackets. -/
def checkBracketed (host : String) : Outcome Unit :=
  if Text.startsWith host "v" then
    if isFutureVersion host then .ok () else .error (.badValue "IPvFuture address is invalid")
  else if isDotted host then .error (.badValue "An IPv4 address cannot be in brackets")
  else if isVersionSix host then .ok ()
  else .error (.badValue (Text.quoted host ++ " does not appear to be an IPv4 or IPv6 address"))

/-- Characters that some programs read as one of the marks `/`, `?`, `#`, `@` and `:`. -/
def markLookalikes : List Nat :=
  [0x2047, 0x2048, 0x2049, 0x2100, 0x2101, 0x2105, 0x2106, 0x2a74, 0xfe13, 0xfe16, 0xfe55, 0xfe56,
   0xfe5f, 0xfe6b, 0xff03, 0xff0f, 0xff1a, 0xff1f, 0xff20]

/-- What may stand between the double slash and the path: brackets come in pairs and hold an
address, and no character is taken for a mark. -/
def checkAuthority (authority : String) : Outcome Unit := do
  let opened := Text.contains authority "["
  let closed := Text.contains authority "]"
  if opened != closed then
    throw (.badValue "Invalid IPv6 URL")
  if opened then
    let afterOpen := ((Text.cutAt? authority "[").map Prod.snd).getD ""
    let host := ((Text.cutAt? afterOpen "]").map Prod.fst).getD afterOpen
    checkBracketed host
  if authority.toList.any fun c => markLookalikes.contains c.toNat then
    throw (.badValue ("netloc '" ++ authority ++
      "' contains invalid characters under NFKC normalization"))

end Remedy.Url
