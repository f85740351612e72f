import Remedy.Rpc.Frame
import Remedy.Proofs.Action
import Remedy.Proofs.Json.Ascii
import Remedy.Proofs.Json.RoundTrip

/-!
# Frames read back

The bytes of a frame are two header lines and the text of the message. The header counts characters
and the reader takes bytes, which are as many because the text is ASCII. So a frame is taken from the
stream exactly up to its end, whatever follows it, and the messages that were sent are received one
by one.

Reading always gets on: unless the stream has ended, at least one byte is taken from it.

Main results:

* `headerLine_size`, `headerLine_blank`: what the lines of a frame's header say.
* `receive_frame`: a message is received from its frame, and what follows the frame is left.
* `receiveTimes_send`: the messages that were sent are received, and then the stream has ended.
* `length_receive_lt`: reading takes something from a stream that has not ended.
-/

namespace Remedy.Rpc

open Remedy.Action
open Text.Utf8 (Ascii encode)

/-! ## Header lines -/

theorem withoutEnd_append (s : String) : withoutEnd (s ++ "\r\n") = .ok s := by
  unfold withoutEnd
  rw [Text.dropBack?_append]

theorem headerLine_blank : headerLine ("" ++ "\r\n") = .ok .blank := by
  unfold headerLine
  rw [withoutEnd_append]
  rfl

theorem decimalValue?_of_isDigit {c : Char} (hc : c.isDigit = true) :
    Text.decimalValue? c = some (c.toNat - 48) := by
  simp only [Char.isDigit, Bool.and_eq_true, decide_eq_true_eq] at hc
  have hlow : 48 ≤ c.toNat := UInt32.le_iff_toNat_le.mp hc.1
  have hhigh : c.toNat ≤ 57 := UInt32.le_iff_toNat_le.mp hc.2
  have hfirst : (48 ≤ c.toNat && c.toNat < 48 + 10) = true := by
    rw [Bool.and_eq_true, decide_eq_true_eq, decide_eq_true_eq]
    omega
  unfold Text.decimalValue? Text.zeros
  rw [List.findSome?_cons, if_pos hfirst]

theorem decimalNumber?_of_digits {ds : List Char} (hds : ∀ c ∈ ds, c.isDigit = true) :
    Text.decimalNumber? ds = some (Decimal.valueOf ds) := by
  have hfold : ∀ (ds : List Char) (n : Nat), (∀ c ∈ ds, c.isDigit = true) →
      ds.foldl (fun acc c => do
        let n ← acc
        let d ← Text.decimalValue? c
        return 10 * n + d) (some n) =
      some (ds.foldl (fun acc c => acc * 10 + (c.toNat - 48)) n) := by
    intro ds
    induction ds with
    | nil => exact fun n _ => rfl
    | cons c ds ih =>
      intro n h
      have hc := decimalValue?_of_isDigit (h c List.mem_cons_self)
      rw [List.foldl_cons, List.foldl_cons, ← ih _ fun d hd => h d (List.mem_cons_of_mem c hd)]
      simp [hc, mul_comm]
  exact hfold ds 0 hds

/-- The size in a header is read back, if the stream can be asked for so many bytes. -/
theorem sizeOf_natural {n : Nat} (hn : n < streamLimit) : sizeOf (Decimal.natural n) = .ok n := by
  have htext : (Decimal.natural n).toList = Decimal.naturalChars n := String.toList_ofList
  have hdigits : ∀ c ∈ Decimal.naturalChars n, c.isDigit = true :=
    fun c hc => Decimal.isDigit_of_mem_naturalChars hc
  have hnonempty : (Decimal.natural n).isEmpty = false := by
    rw [Bool.eq_false_iff, ne_eq, String.isEmpty_iff, ← String.toList_eq_nil_iff, htext]
    exact Nat.toDigits_ne_nil
  have hall : (Decimal.natural n).toList.all Text.isDigit = true := by
    rw [htext, List.all_eq_true]
    intro c hc
    simp [Text.isDigit, decimalValue?_of_isDigit (hdigits c hc)]
  have hlength : ¬ digitLimit < (Decimal.natural n).length := by
    have hshort : (Decimal.naturalChars n).length ≤ 19 := by
      rw [Decimal.length_naturalChars_le_iff (by norm_num)]
      exact hn.trans (by norm_num [streamLimit])
    rw [← String.length_toList, htext]
    unfold digitLimit
    omega
  unfold sizeOf
  rw [hnonempty, hall, htext, decimalNumber?_of_digits hdigits, Decimal.valueOf_naturalChars,
    if_neg hlength]
  rfl

theorem headerLine_size {n : Nat} (hn : n < streamLimit) :
    headerLine (sizeHeader ++ Decimal.natural n ++ "\r\n") = .ok (.size n) := by
  have hnonempty : (sizeHeader ++ Decimal.natural n).isEmpty = false := by
    rw [Bool.eq_false_iff, ne_eq, String.isEmpty_iff, ← String.toList_eq_nil_iff,
      String.toList_append]
    simp [sizeHeader]
  unfold headerLine
  rw [Outcome.bind_eq_ok]
  refine ⟨_, withoutEnd_append _, ?_⟩
  rw [hnonempty, if_neg Bool.false_ne_true, Text.dropFront?_append]
  exact Outcome.bind_eq_ok.mpr ⟨n, sizeOf_natural hn, rfl⟩

/-! ## Lines of a stream -/

theorem splitLine_append {line : Bytes} (h : 10 ∉ line) (rest : Bytes) :
    splitLine (line ++ 10 :: rest) = (line ++ [10], rest) := by
  induction line with
  | nil => rfl
  | cons b line ih =>
    have hb : b ≠ 10 := fun heq => h (by simp [heq])
    have hline : 10 ∉ line := fun hin => h (List.mem_cons_of_mem b hin)
    simp [splitLine, hb, ih hline]

/-- The line of an ASCII text without line feeds is taken as it was sent. -/
theorem splitLine_encode {s : String} (hs : Ascii s.toList) (hline : '\n' ∉ s.toList)
    (rest : Bytes) :
    splitLine (encode (s ++ "\r\n") ++ rest) = (encode (s ++ "\r\n"), rest) := by
  have hbytes : encode (s ++ "\r\n") = encode (s ++ "\r") ++ [10] := by
    have hsplit : s ++ "\r\n" = s ++ "\r" ++ "\n" := by
      rw [String.append_assoc]
      rfl
    have hfeed : encode "\n" = [10] := Text.Utf8.encode_of_ascii (s := "\n") (by decide)
    rw [hsplit, Text.Utf8.encode_append, hfeed]
  have hascii : Ascii (s ++ "\r").toList := by
    rw [String.toList_append, Text.Utf8.ascii_append]
    exact ⟨hs, by decide⟩
  have hnone : 10 ∉ encode (s ++ "\r") := by
    intro hin
    obtain ⟨c, hc, hnum⟩ := Text.Utf8.toNat_mem_encode hascii hin
    have hfeed : c = '\n' := Char.toNat_inj.mp hnum
    subst hfeed
    rw [String.toList_append, List.mem_append] at hc
    rcases hc with hc | hc
    · exact hline hc
    · revert hc
      decide
  rw [hbytes, List.append_assoc, List.singleton_append, splitLine_append hnone]

/-- One line of a header is taken and counts for what it says. -/
theorem readHeader_line {bytes line rest : Bytes} {text : String} {h : HeaderLine} (fuel : Nat)
    (size : Option Nat) (hline : splitLine bytes = (line, rest)) (hsome : line ≠ [])
    (htext : textOf line = .ok text) (hheader : headerLine text = .ok h) :
    (readHeader (fuel + 1) size).exec bytes =
      match h with
      | .blank => (.ok (some size), rest)
      | .size n => (readHeader fuel (some n)).exec rest
      | .type => (readHeader fuel size).exec rest := by
  have htake : takeLine.exec bytes = (.ok line, rest) := by
    unfold takeLine
    rw [exec_ofExec, hline]
  have hparsed : (do headerLine (← textOf line) : Outcome HeaderLine) = .ok h := by
    rw [htext]
    exact hheader
  rw [readHeader, exec_bind_of_ok htake, if_neg (mt List.isEmpty_iff.mp hsome), hparsed]
  cases h <;> rfl

theorem textOf_encode (s : String) : textOf (encode s) = .ok s := by
  unfold textOf
  rw [Text.Utf8.decode?_encode]

/-! ## Frames -/

/-- A message that can be sent: no object in it has a key twice, and its text is not longer than any
text can be. -/
structure Sendable (message : Json) : Prop where
  proper : message.proper = true
  short : (Json.render Json.spaced message).length < streamLimit

theorem encode_frame (message : Json) :
    encode (frame message) =
      encode (sizeHeader ++ Decimal.natural (Json.render Json.spaced message).length ++ "\r\n") ++
        (encode ("" ++ "\r\n") ++ encode (Json.render Json.spaced message)) := by
  have hsplit : frame message =
      sizeHeader ++ Decimal.natural (Json.render Json.spaced message).length ++ "\r\n" ++
        ("" ++ "\r\n" ++ Json.render Json.spaced message) := by
    unfold frame
    rw [← String.toList_inj]
    simp
  rw [hsplit, Text.Utf8.encode_append, Text.Utf8.encode_append ("" ++ "\r\n")]

theorem ascii_header (n : Nat) : Ascii (sizeHeader ++ Decimal.natural n).toList ∧
    '\n' ∉ (sizeHeader ++ Decimal.natural n).toList := by
  have htext : (Decimal.natural n).toList = Decimal.naturalChars n := String.toList_ofList
  rw [String.toList_append, htext]
  constructor
  · rw [Text.Utf8.ascii_append]
    exact ⟨by decide, Decimal.ascii_naturalChars n⟩
  · rw [List.mem_append, not_or]
    refine ⟨by decide, fun hin => ?_⟩
    exact absurd (Decimal.isDigit_of_mem_naturalChars hin) (by decide)

/-- The header of a frame says how long its text is. -/
theorem readHeader_frame {message : Json} (h : Sendable message) (fuel : Nat) (rest : Bytes) :
    (readHeader (fuel + 2) none).exec (encode (frame message) ++ rest) =
      (.ok (some (some (Json.render Json.spaced message).length)),
        encode (Json.render Json.spaced message) ++ rest) := by
  obtain ⟨hascii, hline⟩ := ascii_header (Json.render Json.spaced message).length
  have hnonempty : ∀ s : String, encode (s ++ "\r\n") ≠ [] := by
    intro s hnil
    rw [Text.Utf8.encode_append, List.append_eq_nil_iff] at hnil
    have hend : encode "\r\n" = [13, 10] := Text.Utf8.encode_of_ascii (s := "\r\n") (by decide)
    rw [hend] at hnil
    cases hnil.2
  rw [encode_frame, List.append_assoc, List.append_assoc,
    readHeader_line (fuel + 1) none (splitLine_encode hascii hline _) (hnonempty _)
      (textOf_encode _) (headerLine_size h.short)]
  show (readHeader (fuel + 1) _).exec _ = _
  rw [readHeader_line fuel _ (splitLine_encode (by decide) (by decide) _) (hnonempty _)
      (textOf_encode _) headerLine_blank]

/-- A message is received from its frame, and what follows the frame is left. -/
theorem receive_frame {message : Json} (h : Sendable message) (rest : Bytes) :
    receive.exec (encode (frame message) ++ rest) = (.ok (some message), rest) := by
  have hascii := Json.ascii_render_spaced message
  have hlength := Text.Utf8.length_encode_of_ascii hascii
  have hpos : (Json.render Json.spaced message).length ≠ 0 := by
    have hchars := Json.length_chars_pos Json.spaced 0 message
    unfold Json.render
    rw [String.length_ofList]
    omega
  have hfuel : ∃ k, (encode (frame message) ++ rest).length + 1 = k + 2 := by
    refine ⟨(encode (frame message) ++ rest).length - 1, ?_⟩
    rw [List.length_append, encode_frame, List.length_append, List.length_append, hlength]
    omega
  obtain ⟨k, hk⟩ := hfuel
  have hheader := readHeader_frame h k rest
  have htake : (takeBytes (Json.render Json.spaced message).length).exec
      (encode (Json.render Json.spaced message) ++ rest) =
        (.ok (encode (Json.render Json.spaced message)), rest) := by
    unfold takeBytes
    rw [exec_ofExec, if_neg (not_le.mpr h.short), ← hlength, List.take_left, List.drop_left]
  unfold receive
  rw [exec_bind_of_ok (exec_get _), hk, exec_bind_of_ok hheader]
  dsimp only [Option.getD_some]
  rw [if_neg hpos]
  show (takeBytes _ >>= _).exec _ = _
  rw [exec_bind_of_ok htake, textOf_encode, exec_bind_of_ok (exec_ofOutcome _ _),
    Json.parse?_render Json.readable_spaced h.proper]
  rfl

theorem receive_nil : receive.exec [] = (.ok none, []) := rfl

/-- The messages that were sent are received in their order, and then the stream has ended. -/
theorem receiveTimes_send {messages : List Json} (h : ∀ m ∈ messages, Sendable m) :
    receiveTimes (messages.length + 1) (send messages) =
      (messages.map (fun m => .ok (some m)) ++ [.ok none], []) := by
  induction messages with
  | nil => rfl
  | cons m messages ih =>
    have hrest := ih fun x hx => h x (List.mem_cons_of_mem m hx)
    have hsend : send (m :: messages) = encode (frame m) ++ send messages := by
      unfold send
      rw [List.flatMap_cons]
    simp only [List.length_cons, receiveTimes, hsend, receive_frame (h m List.mem_cons_self), hrest]
    rfl

/-! ## Getting on -/

/-- The action adds nothing to the stream. -/
def Shrinks {α : Type} (a : Action Bytes α) : Prop :=
  ∀ bytes, (a.exec bytes).2.length ≤ bytes.length

theorem length_bind_le {α β : Type} {a : Action Bytes α} {f : α → Action Bytes β} {bytes : Bytes}
    {k : Nat} (ha : (a.exec bytes).2.length ≤ k) (hf : ∀ x, Shrinks (f x)) :
    ((a >>= f).exec bytes).2.length ≤ k := by
  rw [exec_bind]
  rcases hrun : a.exec bytes with ⟨o, rest⟩
  rw [hrun] at ha
  cases o with
  | error e => exact ha
  | ok x => exact (hf x rest).trans ha

theorem shrinks_bind {α β : Type} {a : Action Bytes α} {f : α → Action Bytes β} (ha : Shrinks a)
    (hf : ∀ x, Shrinks (f x)) : Shrinks (a >>= f) :=
  fun bytes => length_bind_le (ha bytes) hf

theorem shrinks_ofOutcome {α : Type} (o : Outcome α) : Shrinks (ofOutcome o) :=
  fun _ => le_rfl

theorem shrinks_takeBytes (n : Nat) : Shrinks (takeBytes n) := by
  intro bytes
  unfold takeBytes
  rw [exec_ofExec]
  split
  · exact le_rfl
  · simp

theorem length_splitLine_le (bytes : Bytes) : (splitLine bytes).2.length ≤ bytes.length - 1 := by
  induction bytes with
  | nil => exact le_rfl
  | cons b bytes ih =>
    unfold splitLine
    by_cases hb : b = 10
    · rw [if_pos hb]
      simp
    · rw [if_neg hb]
      simp only [List.length_cons]
      omega

/-- A header has one line at least, if any line is read. -/
theorem length_readHeader_le (fuel : Nat) (size : Option Nat) (bytes : Bytes) :
    ((readHeader fuel size).exec bytes).2.length ≤ bytes.length - min fuel 1 := by
  induction fuel generalizing size bytes with
  | zero => exact le_rfl
  | succ fuel ih =>
    have hshrinks : ∀ size, Shrinks (readHeader fuel size) :=
      fun size bytes => (ih size bytes).trans (Nat.sub_le _ _)
    have hline : (takeLine.exec bytes).2.length ≤ bytes.length - min (fuel + 1) 1 := by
      rw [Nat.min_eq_right (Nat.le_add_left 1 fuel)]
      exact length_splitLine_le bytes
    unfold readHeader
    refine length_bind_le hline fun line => ?_
    split
    · exact fun _ => le_rfl
    · refine shrinks_bind (shrinks_ofOutcome _) fun h => ?_
      cases h with
      | blank => exact fun _ => le_rfl
      | size n => exact hshrinks (some n)
      | type => exact hshrinks size

/-- Something is taken from a stream that has not ended. -/
theorem length_receive_lt {bytes : Bytes} (h : bytes ≠ []) :
    (receive.exec bytes).2.length < bytes.length := by
  have hpos := List.length_pos_iff.mpr h
  have hheader := length_readHeader_le (bytes.length + 1) none bytes
  rw [Nat.min_eq_right (Nat.le_add_left 1 _)] at hheader
  have hle : (receive.exec bytes).2.length ≤ bytes.length - 1 := by
    unfold receive
    rw [exec_bind_of_ok (exec_get _)]
    refine length_bind_le hheader fun found => ?_
    cases found with
    | none => exact fun _ => le_rfl
    | some size =>
      -- without a size, the body is not read at all
      dsimp only
      split
      · exact fun _ => le_rfl
      · refine shrinks_bind (shrinks_takeBytes _) fun bytes => ?_
        refine shrinks_bind (shrinks_ofOutcome _) fun body => ?_
        split
        · exact fun _ => le_rfl
        · exact fun _ => le_rfl
  omega

end Remedy.Rpc
