import Remedy.Url.Host
import Remedy.Text.Utf8

/-!
# Addresses of files

Reports name files by addresses such as `file:///opt/input/source/src/A.java`. What is needed of an
address is its path: the part after the scheme and the host and before a query, a fragment or, for
some schemes, parameters.
-/

namespace Remedy.Url

/-- A character that may stand in a scheme. -/
def isSchemeChar (c : Char) : Bool :=
  (c.toNat < 128 && c.isAlphanum) || c == '+' || c == '-' || c == '.'

/-- Schemes whose last path segment may carry parameters after a semicolon; the empty scheme is one
of them. -/
def schemesWithParameters : List String :=
  ["", "ftp", "hdl", "prospero", "http", "imap", "https", "shttp", "rtsp", "rtsps", "rtspu", "sip",
   "sips", "mms", "sftp", "tel"]

/-- Drops blanks and control characters in front, and tabs and line breaks anywhere. -/
def cleaned (cs : List Char) : List Char :=
  (cs.dropWhile fun c => c.toNat ≤ 32).filter fun c => c != '\t' && c != '\r' && c != '\n'

/-- The scheme in lower case, and what follows its colon. -/
def splitScheme (cs : List Char) : String × List Char :=
  let front := cs.takeWhile (· != ':')
  match cs.dropWhile (· != ':') with
  | _ :: rest =>
    if (front.head?.any fun c => c.toNat < 128 && c.isAlpha) && front.all isSchemeChar then
      (String.ofList (front.map Char.toLower), rest)
    else ("", cs)
  | [] => ("", cs)

/-- One of the marks that end the authority. -/
def endsAuthority (c : Char) : Bool :=
  c == '/' || c == '?' || c == '#'

/-- The authority after a double slash, and what follows it. -/
def splitAuthority : List Char → List Char × List Char
  | '/' :: '/' :: rest => (rest.takeWhile (!endsAuthority ·), rest.dropWhile (!endsAuthority ·))
  | cs => ([], cs)

/-- Drops the parameters of the last segment. -/
def dropParameters (cs : List Char) : List Char :=
  let last := (cs.reverse.takeWhile (· != '/')).reverse
  let before := cs.take (cs.length - last.length)
  before ++ last.takeWhile (· != ';')

/-- The path of an address. -/
def path (url : String) : Outcome String := do
  let (scheme, rest) := splitScheme (cleaned url.toList)
  let (authority, rest) := splitAuthority rest
  checkAuthority (String.ofList authority)
  let rest := (rest.takeWhile (· != '#')).takeWhile (· != '?')
  let kept := if schemesWithParameters.contains scheme then dropParameters rest else rest
  return String.ofList kept

/-- The value of a hexadecimal digit of either case. -/
def hexValue (c : Char) : Nat :=
  if c.isDigit then c.toNat - 48
  else if 'a' ≤ c && c ≤ 'f' then c.toNat - 87
  else c.toNat - 55

/-- The bytes of ASCII text, each percent sign with two hexadecimal digits read as one byte. -/
def percentBytes : List Char → List Nat
  | '%' :: a :: b :: rest =>
    if isHexDigit a && isHexDigit b then (hexValue a * 16 + hexValue b) :: percentBytes rest
    else '%'.toNat :: percentBytes (a :: b :: rest)
  | c :: rest => c.toNat :: percentBytes rest
  | [] => []

/-- Reads percent escapes. `run` holds the ASCII characters since the last other character,
backwards; escapes are joined to characters only inside such a run. -/
def unescapeFrom (run : List Char) : List Char → List Char
  | [] => Text.Utf8.decodeReplacing (percentBytes run.reverse)
  | c :: rest =>
    if c.toNat < 128 then unescapeFrom (c :: run) rest
    else Text.Utf8.decodeReplacing (percentBytes run.reverse) ++ c :: unescapeFrom [] rest

/-- A text with its percent escapes read. -/
def unescape (s : String) : String :=
  String.ofList (unescapeFrom [] s.toList)

end Remedy.Url
