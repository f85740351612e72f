import Remedy.Proofs.Json.Order
import Remedy.Proofs.Number.Decimal
import Remedy.Proofs.Text.Utf8
import Remedy.Json.Writer

/-!
# Values written in ASCII

A layout that writes the characters beyond ASCII as numbered escapes writes nothing but ASCII, if its
own gaps are ASCII. The text of a value then has as many bytes as characters.

Main results:

* `ascii_stringChar`: what is written for a character is ASCII.
* `ascii_chars`: what is written for a value is ASCII.
-/

namespace Remedy

open Text.Utf8 (Ascii)

/-! ## Numbers -/

namespace Decimal

theorem ascii_of_digits {cs : List Char} (h : ∀ c ∈ cs, c.isDigit = true) : Ascii cs := by
  intro c hc
  have hdigit := h c hc
  simp only [Char.isDigit, Bool.and_eq_true, decide_eq_true_eq] at hdigit
  have hle : c.val.toNat ≤ 57 := UInt32.le_iff_toNat_le.mp hdigit.2
  exact hle.trans_lt (by norm_num)

theorem ascii_naturalChars (n : Nat) : Ascii (naturalChars n) :=
  ascii_of_digits fun _ hc => isDigit_of_mem_naturalChars hc

theorem ascii_zeros (k : Nat) : Ascii (List.replicate k '0') := by
  intro c hc
  rw [List.eq_of_mem_replicate hc]
  decide

theorem ascii_intChars (n : Int) : Ascii (intChars n) := by
  cases n with
  | ofNat n => exact ascii_naturalChars n
  | negSucc n => exact Text.Utf8.ascii_cons.mpr ⟨by decide, ascii_naturalChars (n + 1)⟩

theorem ascii_exponentChars (width : Nat) (e : Int) : Ascii (exponentChars width e) := by
  unfold exponentChars
  split <;> simp [ascii_zeros, ascii_naturalChars]

theorem ascii_layOut (layout : Layout) {ds : List Char} (hds : Ascii ds) (point : Int) :
    Ascii (layOut layout ds point) := by
  have htake : ∀ p, Ascii (ds.take p) := fun p c hc => hds c (List.mem_of_mem_take hc)
  have hdrop : ∀ p, Ascii (ds.drop p) := fun p c hc => hds c (List.mem_of_mem_drop hc)
  unfold layOut
  dsimp only
  split
  · split
    · simp [ascii_zeros, hds]
    · split
      · simp [ascii_zeros, hds]
      · simp [htake, hdrop]
  · split
    · simp [htake, ascii_exponentChars]
    · simp [htake, ascii_exponentChars, -List.drop_one, hdrop]

theorem ascii_binary64Chars (x : Binary64) : Ascii (binary64Chars inJson x) := by
  cases x with
  | notANumber => decide
  | infinite negative => cases negative <;> decide
  | finite negative m e hform =>
    have hsign : Ascii (if negative then ['-'] else []) := by cases negative <;> decide
    unfold binary64Chars
    rw [Text.Utf8.ascii_append]
    refine ⟨hsign, ?_⟩
    dsimp only
    split
    · decide
    · exact ascii_layOut _ (ascii_naturalChars _) _

end Decimal

/-! ## Strings -/

namespace Json

theorem ascii_hexDigits (width n : Nat) : Ascii (Text.hexDigits width n) := by
  have hdigit : ∀ d < 16, (Text.hexDigit d).toNat < 128 := by
    intro d hd
    interval_cases d <;> decide
  induction width generalizing n with
  | zero => exact Text.Utf8.ascii_nil
  | succ width ih =>
    rw [Text.hexDigits, Text.Utf8.ascii_append, Text.Utf8.ascii_cons]
    exact ⟨ih _, hdigit _ (Nat.mod_lt n (by norm_num)), Text.Utf8.ascii_nil⟩

theorem ascii_numberedEscape (n : Nat) : Ascii (numberedEscape n) := by
  simp [numberedEscape, ascii_hexDigits]

/-- What is written for a character is ASCII. -/
theorem ascii_stringChar (c : Char) : Ascii (stringChar true c) := by
  unfold stringChar
  dsimp only
  split_ifs with hquoted hn hr ht hb hf hcontrol hplain hsmall
  · rw [Bool.or_eq_true, beq_iff_eq, beq_iff_eq] at hquoted
    rcases hquoted with rfl | rfl <;> simp
  · simp
  · simp
  · simp
  · simp
  · simp
  · exact ascii_numberedEscape _
  · have hlt : c.toNat < 127 := by simpa using hplain
    simp only [Text.Utf8.ascii_cons, Text.Utf8.ascii_nil, and_true]
    omega
  · exact ascii_numberedEscape _
  · rw [Text.Utf8.ascii_append]
    exact ⟨ascii_numberedEscape _, ascii_numberedEscape _⟩

theorem ascii_stringChars (s : String) : Ascii (stringChars true s) := by
  have hbody : Ascii (s.toList.flatMap (stringChar true)) := by
    intro c hc
    obtain ⟨d, -, hd⟩ := List.mem_flatMap.mp hc
    exact ascii_stringChar d c hd
  simp [stringChars, hbody]

/-! ## Values -/

theorem ascii_lineBreak (layout : Layout) (level : Nat) : Ascii (lineBreak layout level) := by
  have hblanks : ∀ k, Ascii (List.replicate k ' ') := by
    intro k c hc
    rw [List.eq_of_mem_replicate hc]
    decide
  unfold lineBreak
  split
  · simp [hblanks]
  · exact Text.Utf8.ascii_nil

section Layouts

variable {layout : Layout} (hitems : Ascii layout.itemGap.toList) (hascii : layout.ascii = true)
include hitems

theorem ascii_moreItems {xs : List Json} (h : ∀ x ∈ xs, ∀ level, Ascii (chars layout level x))
    (level : Nat) : Ascii (moreItems layout level xs) := by
  induction xs with
  | nil => simp [moreItems]
  | cons x xs ih =>
    have hx := h x List.mem_cons_self (level + 1)
    have hxs := ih fun y hy => h y (List.mem_cons_of_mem x hy)
    simp [moreItems, hitems, ascii_lineBreak, hx, hxs]

variable (hkeys : Ascii layout.keyGap.toList)
include hascii hkeys

theorem ascii_moreFields {fields : Fields}
    (h : ∀ e ∈ fields, ∀ level, Ascii (chars layout level e.2)) (level : Nat) :
    Ascii (moreFields layout level fields) := by
  induction fields with
  | nil => simp [moreFields]
  | cons e fields ih =>
    have he := h e List.mem_cons_self (level + 1)
    have hfields := ih fun y hy => h y (List.mem_cons_of_mem e hy)
    obtain ⟨k, v⟩ := e
    simp [moreFields, hitems, hkeys, hascii, ascii_stringChars, ascii_lineBreak, he, hfields]

/-- What is written for a value is ASCII. -/
theorem ascii_chars (v : Json) (level : Nat) : Ascii (chars layout level v) := by
  induction v using valueInduction generalizing level with
  | null =>
    rw [chars]
    decide
  | number v q hq =>
    cases v with
    | bool b => cases b <;> rw [chars] <;> decide
    | int n =>
      rw [chars]
      exact Decimal.ascii_intChars n
    | real x =>
      rw [chars]
      exact Decimal.ascii_binary64Chars x
    | null => cases hq
    | str s => cases hq
    | arr xs => cases hq
    | obj fields => cases hq
  | str s =>
    rw [chars, hascii]
    exact ascii_stringChars s
  | arr xs ih =>
    cases xs with
    | nil =>
      rw [chars]
      decide
    | cons x xs =>
      have hx := ih x List.mem_cons_self (level + 1)
      have hxs := ascii_moreItems hitems (fun y hy => ih y (List.mem_cons_of_mem x hy)) level
      simp [chars, ascii_lineBreak, hx, hxs]
  | obj fields ih =>
    cases fields with
    | nil =>
      rw [chars]
      decide
    | cons e fields =>
      have he := ih e List.mem_cons_self (level + 1)
      have hfields := ascii_moreFields hitems hascii hkeys
        (fun y hy => ih y (List.mem_cons_of_mem e hy)) level
      obtain ⟨k, v⟩ := e
      simp [chars, ascii_lineBreak, hascii, ascii_stringChars, hkeys, he, hfields]

end Layouts

theorem ascii_render_spaced (v : Json) : Ascii (render spaced v).toList := by
  unfold render
  rw [String.toList_ofList]
  exact ascii_chars (by decide) rfl (by decide) v 0

end Json
end Remedy
