import Remedy.Json.Reader
import Remedy.Json.Writer
import Mathlib.Tactic

/-!
# Reading written strings

Each character of a string is written as it is, as an escape with a letter, or as one or two numbered
escapes. Each of these forms reads back as the character, so that a string reads back up to its
closing quote.

Main results:

* `unicodeEscape_single`, `unicodeEscape_pair`: numbered escapes read back.
* `stringFrom_stringChar`: one character is read from what is written for it.
* `string_stringChars`: a string reads back.
-/

namespace Remedy.Json.Reader

/-! ## Numbered escapes -/

theorem hexValue?_hexDigit {n : Nat} (hn : n < 16) : hexValue? (Text.hexDigit n) = some n := by
  interval_cases n <;> rfl

/-- Four digits give a number below `2 ^ 16` back. -/
theorem hex4_hexDigits {n : Nat} (hn : n < 65536) (rest : List Char) :
    hex4 (Text.hexDigits 4 n ++ rest) = some (n, rest) := by
  have h0 := hexValue?_hexDigit (Nat.mod_lt n (show 0 < 16 by norm_num))
  have h1 := hexValue?_hexDigit (Nat.mod_lt (n / 16) (show 0 < 16 by norm_num))
  have h2 := hexValue?_hexDigit (Nat.mod_lt (n / 16 / 16) (show 0 < 16 by norm_num))
  have h3 := hexValue?_hexDigit (Nat.mod_lt (n / 16 / 16 / 16) (show 0 < 16 by norm_num))
  have hsum : ((n / 16 / 16 / 16 % 16 * 16 + n / 16 / 16 % 16) * 16 + n / 16 % 16) * 16 + n % 16 =
      n := by omega
  show hex4 (Text.hexDigit (n / 16 / 16 / 16 % 16) :: Text.hexDigit (n / 16 / 16 % 16) ::
    Text.hexDigit (n / 16 % 16) :: Text.hexDigit (n % 16) :: rest) = _
  simp only [hex4, h0, h1, h2, h3, Option.bind_eq_bind, Option.bind_some, hsum]
  rfl

theorem unicodeEscape_single {n : Nat} (hn : n < 65536) (hhalf : n < 0xd800 ∨ 0xe000 ≤ n)
    (rest : List Char) :
    unicodeEscape (Text.hexDigits 4 n ++ rest) = some (Char.ofNat n, rest) := by
  have hhigh : ¬ (0xd800 ≤ n ∧ n < 0xdc00) := by omega
  have hlow : ¬ (0xdc00 ≤ n ∧ n < 0xe000) := by omega
  simp [unicodeEscape, hex4_hexDigits hn, hhigh, hlow]

theorem unicodeEscape_halves {a b : Nat} (ha : 0xd800 ≤ a ∧ a < 0xdc00)
    (hb : 0xdc00 ≤ b ∧ b < 0xe000) (rest : List Char) :
    unicodeEscape (Text.hexDigits 4 a ++ (numberedEscape b ++ rest)) =
      some (Char.ofNat (0x10000 + (a - 0xd800) * 0x400 + (b - 0xdc00)), rest) := by
  simp [unicodeEscape, numberedEscape, hex4_hexDigits (show a < 65536 by omega),
    hex4_hexDigits (show b < 65536 by omega), ha, hb]

/-- Two halves of a pair give the character back. -/
theorem unicodeEscape_pair {n : Nat} (hlow : 0x10000 ≤ n) (hhigh : n < 0x110000)
    (rest : List Char) :
    unicodeEscape (Text.hexDigits 4 (0xd800 + (n - 0x10000) / 0x400) ++
        (numberedEscape (0xdc00 + (n - 0x10000) % 0x400) ++ rest)) = some (Char.ofNat n, rest) := by
  have hsum : 0x10000 + (0xd800 + (n - 0x10000) / 0x400 - 0xd800) * 0x400 +
      (0xdc00 + (n - 0x10000) % 0x400 - 0xdc00) = n := by omega
  rw [unicodeEscape_halves (by omega) (by omega), hsum]

/-! ## Characters -/

theorem stringFrom_escape (fuel : Nat) (acc : List Char) {e x : Char} (he : e ≠ 'u')
    (hx : escape? e = some x) (rest : List Char) :
    stringFrom (fuel + 1) acc ('\\' :: e :: rest) = stringFrom fuel (x :: acc) rest := by
  simp [stringFrom, hx]

theorem stringFrom_numbered (fuel : Nat) (acc : List Char) {more rest : List Char} {x : Char}
    (hx : unicodeEscape more = some (x, rest)) :
    stringFrom (fuel + 1) acc ('\\' :: 'u' :: more) = stringFrom fuel (x :: acc) rest := by
  simp [stringFrom, hx]

theorem stringFrom_plain (fuel : Nat) (acc : List Char) {c : Char} (hquote : c ≠ '"')
    (hslash : c ≠ '\\') (hc : 32 ≤ c.toNat) (rest : List Char) :
    stringFrom (fuel + 1) acc (c :: rest) = stringFrom fuel (c :: acc) rest := by
  simp [stringFrom, hquote, hslash, not_lt.mpr hc]

/-- The number of a character is no half of a pair. -/
theorem toNat_valid (c : Char) : c.toNat < 0xd800 ∨ 0xe000 ≤ c.toNat ∧ c.toNat < 0x110000 := by
  have hvalid : c.toNat.isValidChar := c.valid
  unfold Nat.isValidChar at hvalid
  omega

theorem eq_ofNat_of_toNat {c : Char} {n : Nat} (h : c.toNat = n) : c = Char.ofNat n := by
  rw [← h, Char.ofNat_toNat]

/-- One character is read from what is written for it. -/
theorem stringFrom_stringChar (ascii : Bool) (fuel : Nat) (acc : List Char) (c : Char)
    (rest : List Char) :
    stringFrom (fuel + 1) acc (stringChar ascii c ++ rest) = stringFrom fuel (c :: acc) rest := by
  have hvalid := toNat_valid c
  have hback : Char.ofNat c.toNat = c := Char.ofNat_toNat c
  unfold stringChar
  dsimp only
  by_cases hquoted : (c == '"' || c == '\\') = true
  · rw [if_pos hquoted]
    rw [Bool.or_eq_true, beq_iff_eq, beq_iff_eq] at hquoted
    rcases hquoted with rfl | rfl
    · exact stringFrom_escape fuel acc (by decide) rfl rest
    · exact stringFrom_escape fuel acc (by decide) rfl rest
  · rw [if_neg hquoted]
    rw [Bool.or_eq_true, beq_iff_eq, beq_iff_eq, not_or] at hquoted
    -- the letters of the escapes, then the numbers
    by_cases hn : (c == '\n') = true
    · rw [if_pos hn, beq_iff_eq.mp hn]
      exact stringFrom_escape fuel acc (by decide) rfl rest
    rw [if_neg hn]
    by_cases hr : (c == '\r') = true
    · rw [if_pos hr, beq_iff_eq.mp hr]
      exact stringFrom_escape fuel acc (by decide) rfl rest
    rw [if_neg hr]
    by_cases ht : (c == '\t') = true
    · rw [if_pos ht, beq_iff_eq.mp ht]
      exact stringFrom_escape fuel acc (by decide) rfl rest
    rw [if_neg ht]
    by_cases hb : (c.toNat == 8) = true
    · rw [if_pos hb, eq_ofNat_of_toNat (beq_iff_eq.mp hb)]
      exact stringFrom_escape fuel acc (by decide) rfl rest
    rw [if_neg hb]
    by_cases hf : (c.toNat == 12) = true
    · rw [if_pos hf, eq_ofNat_of_toNat (beq_iff_eq.mp hf)]
      exact stringFrom_escape fuel acc (by decide) rfl rest
    rw [if_neg hf]
    by_cases hcontrol : c.toNat < 32
    · rw [if_pos hcontrol]
      have hread := unicodeEscape_single (show c.toNat < 65536 by omega) (by omega) rest
      rw [hback] at hread
      exact stringFrom_numbered fuel acc hread
    rw [if_neg hcontrol]
    by_cases hplain : (c.toNat < 127 || !ascii) = true
    · rw [if_pos hplain]
      exact stringFrom_plain fuel acc hquoted.1 hquoted.2 (not_lt.mp hcontrol) rest
    rw [if_neg hplain]
    by_cases hsmall : c.toNat < 0x10000
    · rw [if_pos hsmall]
      have hread := unicodeEscape_single hsmall (by omega) rest
      rw [hback] at hread
      exact stringFrom_numbered fuel acc hread
    · rw [if_neg hsmall]
      have hread := unicodeEscape_pair (show 0x10000 ≤ c.toNat by omega) (by omega) rest
      rw [hback] at hread
      rw [List.append_assoc]
      exact stringFrom_numbered fuel acc hread

/-! ## Strings -/

theorem stringFrom_chars (ascii : Bool) {fuel : Nat} (acc cs rest : List Char)
    (hfuel : cs.length < fuel) :
    stringFrom fuel acc (cs.flatMap (stringChar ascii) ++ '"' :: rest) =
      some (acc.reverse ++ cs, rest) := by
  induction cs generalizing fuel acc with
  | nil =>
    obtain ⟨fuel, rfl⟩ : ∃ k, fuel = k + 1 := ⟨fuel - 1, by simp at hfuel; omega⟩
    simp [stringFrom]
  | cons c cs ih =>
    rw [List.length_cons] at hfuel
    obtain ⟨fuel, rfl⟩ : ∃ k, fuel = k + 1 := ⟨fuel - 1, by omega⟩
    rw [List.flatMap_cons, List.append_assoc, stringFrom_stringChar, ih _ (by omega)]
    simp

theorem stringChar_ne_nil (ascii : Bool) (c : Char) : stringChar ascii c ≠ [] := by
  unfold stringChar
  dsimp only
  split_ifs <;> simp [numberedEscape]

theorem length_le_flatMap_stringChar (ascii : Bool) (cs : List Char) :
    cs.length ≤ (cs.flatMap (stringChar ascii)).length := by
  induction cs with
  | nil => simp
  | cons c cs ih =>
    have hpos := List.length_pos_iff.mpr (stringChar_ne_nil ascii c)
    rw [List.flatMap_cons, List.length_append, List.length_cons]
    omega

/-- A string reads back, behind its opening quote. -/
theorem string_stringChars (ascii : Bool) (s : String) (rest : List Char) :
    string (s.toList.flatMap (stringChar ascii) ++ '"' :: rest) = some (s, rest) := by
  have hlen := length_le_flatMap_stringChar ascii s.toList
  unfold string
  rw [stringFrom_chars ascii [] s.toList rest (by simp at hlen ⊢; omega)]
  simp

end Remedy.Json.Reader
