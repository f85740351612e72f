/-!
# Reading bytes as text

Texts travel as UTF-8. Bytes that come from percent escapes may be no UTF-8 at all; each longest
beginning of a sequence that goes wrong then reads as one replacement character.
-/

namespace Remedy.Text.Utf8

/-- The bytes of a text. -/
def encode (s : String) : List UInt8 :=
  s.toUTF8.data.toList

/-- The text of some bytes, if they are UTF-8. -/
def decode? (bytes : List UInt8) : Option String :=
  String.fromUTF8? ⟨bytes.toArray⟩

/-- What a first byte promises: how many bytes follow, the bits it gives, and the least and the
greatest second byte. -/
structure Lead where
  following : Nat
  bits : Nat
  low : Nat
  high : Nat

/-- Reads a first byte of a sequence of two or more. -/
def lead? (b : Nat) : Option Lead :=
  if 0xc2 ≤ b && b ≤ 0xdf then some ⟨1, b - 0xc0, 0x80, 0xbf⟩
  else if b == 0xe0 then some ⟨2, 0, 0xa0, 0xbf⟩
  else if b == 0xed then some ⟨2, 0xd, 0x80, 0x9f⟩
  else if 0xe1 ≤ b && b ≤ 0xef then some ⟨2, b - 0xe0, 0x80, 0xbf⟩
  else if b == 0xf0 then some ⟨3, 0, 0x90, 0xbf⟩
  else if 0xf1 ≤ b && b ≤ 0xf3 then some ⟨3, b - 0xf0, 0x80, 0xbf⟩
  else if b == 0xf4 then some ⟨3, 4, 0x80, 0x8f⟩
  else none

/-- The character that stands for bytes that are no text. -/
def replacement : Char := Char.ofNat 0xfffd

/-- Reads bytes one by one. `pending` is the sequence that has been begun: the bytes it still lacks,
the bits so far, and the bounds of its next byte. -/
def decodeFrom : Option Lead → List Nat → List Char
  | none, [] => []
  | some _, [] => [replacement]
  | none, b :: bs =>
    if b < 0x80 then Char.ofNat b :: decodeFrom none bs
    else
      match lead? b with
      | some l => decodeFrom (some l) bs
      | none => replacement :: decodeFrom none bs
  | some l, b :: bs =>
    if l.low ≤ b && b ≤ l.high then
      let bits := l.bits * 64 + (b - 0x80)
      if l.following ≤ 1 then Char.ofNat bits :: decodeFrom none bs
      else decodeFrom (some ⟨l.following - 1, bits, 0x80, 0xbf⟩) bs
    else if b < 0x80 then replacement :: Char.ofNat b :: decodeFrom none bs
    else
      match lead? b with
      | some l' => replacement :: decodeFrom (some l') bs
      | none => replacement :: replacement :: decodeFrom none bs

/-- Reads bytes as text, with a replacement character for what is no text. -/
def decodeReplacing (bytes : List Nat) : List Char :=
  decodeFrom none bytes

end Remedy.Text.Utf8
