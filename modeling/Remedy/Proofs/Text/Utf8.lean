import Remedy.Text.Search
import Remedy.Text.Utf8
import Mathlib.Tactic

/-!
# Texts as bytes

The bytes of a text are the bytes of its characters one after the other, and they give the text back.
A text of ASCII characters has one byte for each of them.

Main results:

* `encode_append`: the bytes of two texts stand one after the other.
* `decode?_encode`: the bytes of a text give it back.
* `encode_of_ascii`: an ASCII text has the numbers of its characters as bytes.
* `dropFront?_append`, `dropBack?_append`: what is put in front of a text, or behind it, can be taken
  off again.
-/

namespace Remedy.Text

/-! ## Cutting -/

theorem front?_append (part cs : List Char) : front? part (part ++ cs) = some cs := by
  induction part with
  | nil => rfl
  | cons p part ih => simp [front?, ih]

theorem dropFront?_append (part s : String) : dropFront? (part ++ s) part = some s := by
  unfold dropFront?
  rw [String.toList_append, front?_append]
  simp

theorem dropBack?_append (s part : String) : dropBack? (s ++ part) part = some s := by
  unfold dropBack?
  rw [String.toList_append, List.reverse_append, front?_append]
  simp

namespace Utf8

/-! ## Bytes -/

theorem encode_eq (s : String) : encode s = s.toList.flatMap String.utf8EncodeChar := by
  unfold encode
  rw [String.toUTF8_eq_toByteArray, ← String.utf8Encode_toList, List.utf8Encode,
    List.toList_data_toByteArray]

theorem encode_append (s t : String) : encode (s ++ t) = encode s ++ encode t := by
  rw [encode_eq, encode_eq, encode_eq, String.toList_append, List.flatMap_append]

/-- The bytes of a text give it back. -/
theorem decode?_encode (s : String) : decode? (encode s) = some s := by
  unfold decode? encode String.fromUTF8?
  rw [Array.toArray_toList]
  show (if h : s.toByteArray.IsValidUTF8 then some (String.fromUTF8 s.toByteArray h) else none) = _
  rw [dif_pos s.isValidUTF8]
  rfl

/-! ## ASCII -/

/-- Only characters below 128. -/
def Ascii (cs : List Char) : Prop :=
  ∀ c ∈ cs, c.toNat < 128

instance (cs : List Char) : Decidable (Ascii cs) :=
  List.decidableBAll (fun c : Char => c.toNat < 128) cs

@[simp] theorem ascii_nil : Ascii [] := fun _ hc => by cases hc

@[simp] theorem ascii_cons {c : Char} {cs : List Char} :
    Ascii (c :: cs) ↔ c.toNat < 128 ∧ Ascii cs :=
  List.forall_mem_cons

@[simp] theorem ascii_append {as bs : List Char} : Ascii (as ++ bs) ↔ Ascii as ∧ Ascii bs :=
  List.forall_mem_append

theorem utf8EncodeChar_of_ascii {c : Char} (hc : c.toNat < 128) :
    String.utf8EncodeChar c = [c.val.toUInt8] := by
  refine String.utf8EncodeChar_eq_singleton (Char.utf8Size_eq_one_iff.mpr ?_)
  rw [UInt32.le_iff_toNat_le]
  exact Nat.le_of_lt_succ hc

/-- An ASCII text has one byte for each character. -/
theorem encode_of_ascii {s : String} (hs : Ascii s.toList) :
    encode s = s.toList.map fun c => c.val.toUInt8 := by
  rw [encode_eq, List.map_eq_flatMap]
  exact List.flatMap_congr fun c hc => utf8EncodeChar_of_ascii (hs c hc)

theorem length_encode_of_ascii {s : String} (hs : Ascii s.toList) :
    (encode s).length = s.length := by
  rw [encode_of_ascii hs, List.length_map, String.length_toList]

/-- A byte of an ASCII text is the number of a character of the text. -/
theorem toNat_mem_encode {s : String} (hs : Ascii s.toList) {b : UInt8} (hb : b ∈ encode s) :
    ∃ c ∈ s.toList, c.toNat = b.toNat := by
  rw [encode_of_ascii hs, List.mem_map] at hb
  obtain ⟨c, hc, rfl⟩ := hb
  refine ⟨c, hc, ?_⟩
  have hlt := hs c hc
  rw [UInt32.toNat_toUInt8]
  exact (Nat.mod_eq_of_lt (show c.val.toNat < 2 ^ 8 by
    have : c.val.toNat = c.toNat := rfl
    omega)).symm

end Utf8
end Remedy.Text
