import Remedy.Action
import Remedy.Json.Reader
import Remedy.Json.Writer
import Remedy.Text.Digit
import Remedy.Text.Quoted
import Remedy.Text.Search
import Remedy.Text.Utf8

/-!
# Frames

Messages are JSON values that travel as bytes. A frame is a header with the number of bytes, an empty
line and the text of the message. Reading takes lines up to the empty one, then as many bytes as the
last size said, or as many as there are.
-/

namespace Remedy.Rpc

/-- Bytes of a stream. -/
abbrev Bytes := List UInt8

/-- The beginning of the header with the size. -/
def sizeHeader : String := "Content-Length: "

/-- The beginning of the header with the type, which is passed over. -/
def typeHeader : String := "Content-Type: "

/-- The frame of a message, as text (`__add_header`). -/
def frame (message : Json) : String :=
  let body := Json.render Json.spaced message
  sizeHeader ++ Decimal.natural body.length ++ "\r\n\r\n" ++ body

/-- The bytes of the frames of messages (`send_request`). -/
def send (messages : List Json) : Bytes :=
  messages.flatMap fun m => Text.Utf8.encode (frame m)

/-- The bytes up to a line feed and with it, and those after it. -/
def splitLine : Bytes → Bytes × Bytes
  | [] => ([], [])
  | b :: rest =>
    if b = 10 then ([b], rest)
    else
      let (line, after) := splitLine rest
      (b :: line, after)

/-- A stream cannot be read on. -/
def badHeader {α : Type} (reason : String) : Outcome α :=
  .error (.response .parseError ("Bad header: " ++ reason))

/-- The text of bytes. -/
def textOf (bytes : Bytes) : Outcome String :=
  match Text.Utf8.decode? bytes with
  | some s => .ok s
  | none => .error .malformedText

/-- Numbers are read from at most this many digits. -/
def digitLimit : Nat := 4300

/-- The size that a header gives. -/
def sizeOf (digits : String) : Outcome Nat :=
  if digits.isEmpty || !digits.toList.all Text.isDigit then badHeader "size is not int"
  else if digitLimit < digits.length then
    .error (.badValue ("Exceeds the limit (" ++ Decimal.natural digitLimit ++
      " digits) for integer string conversion: value has " ++ Decimal.natural digits.length ++
      " digits; use sys.set_int_max_str_digits() to increase the limit"))
  else
    match Text.decimalNumber? digits.toList with
    | some n => .ok n
    | none =>
      .error (.badValue ("invalid literal for int() with base 10: " ++ Text.quoted digits))

/-- What a line of a header says. -/
inductive HeaderLine where
  | blank
  | size (n : Nat)
  | type
deriving DecidableEq, Repr

/-- The line without its end. -/
def withoutEnd (line : String) : Outcome String :=
  match Text.dropBack? line "\r\n" with
  | some s => .ok s
  | none =>
    match Text.dropBack? line "\n" with
    | some s => .ok s
    | none => badHeader "missing newline"

/-- Reads a line of a header. -/
def headerLine (line : String) : Outcome HeaderLine := do
  let content ← withoutEnd line
  if content.isEmpty then return .blank
  match Text.dropFront? content sizeHeader with
  | some digits => return .size (← sizeOf digits)
  | none => if Text.startsWith content typeHeader then return .type else badHeader "unkown header"

/-- Takes a line from the stream. -/
def takeLine : Action Bytes Bytes :=
  Action.ofExec fun bytes =>
    let (line, rest) := splitLine bytes
    (.ok line, rest)

/-- The first number `2 ^ 63` of bytes that cannot be asked for. -/
def streamLimit : Nat := 9223372036854775808

/-- Takes bytes from the stream, or as many as there are. More than a place in memory can be numbered
by cannot be asked for. -/
def takeBytes (n : Nat) : Action Bytes Bytes :=
  Action.ofExec fun bytes =>
    if streamLimit ≤ n then (.error .tooLarge, bytes) else (.ok (bytes.take n), bytes.drop n)

/-- Reads the header of a message: its size, or nothing at the end of the stream. The fuel bounds the
number of lines. -/
def readHeader : Nat → Option Nat → Action Bytes (Option (Option Nat))
  | 0, _ => return none
  | fuel + 1, size => do
    let line ← takeLine
    if line.isEmpty then return none
    match ← Action.ofOutcome (do headerLine (← textOf line)) with
    | .blank => return some size
    | .size n => readHeader fuel (some n)
    | .type => readHeader fuel size

/-- Reads a message (`recv_response`); there is none at the end of the stream. -/
def receive : Action Bytes (Option Json) := do
  match ← readHeader ((← get).length + 1) none with
  | none => return none
  | some size =>
    let n := size.getD 0
    if n = 0 then Action.ofOutcome (badHeader "missing size")
    let body ← Action.ofOutcome (textOf (← takeBytes n))
    match Json.parse? body with
    | some message => return some message
    | none => throw .malformedJson

/-- Reads a number of messages; gives what came of each, and the bytes that are left. -/
def receiveTimes : Nat → Bytes → List (Outcome (Option Json)) × Bytes
  | 0, bytes => ([], bytes)
  | n + 1, bytes =>
    let (message, rest) := receive.exec bytes
    let (messages, left) := receiveTimes n rest
    (message :: messages, left)

end Remedy.Rpc
