import Remedy.Url.Basic
import Remedy.Proofs.Text.Utf8

/-!
# Reading percent escapes

A percent sign with two hexadecimal digits stands for a byte. Bytes are put together to characters
where they are UTF-8 and replaced where they are not. Either way an escape, which has three
characters, gives at most one, so that a text gets shorter by reading its escapes. A text without
escapes is not changed.

Main results:

* `length_decodeReplacing_le`: bytes give at most as many characters.
* `unescape_append`: what stands in front of a text and has no percent sign is kept.
* `length_unescape_lt`: reading escapes makes a text that has one shorter.
* `unescape_eq_self_iff`: the texts that are not changed are those without an escape.
-/

namespace Remedy

/-! ## Bytes that may be no text -/

namespace Text.Utf8

/-- A sequence that has been begun counts for one character. -/
theorem length_decodeFrom_le (pending : Option Lead) (bytes : List Nat) :
    (decodeFrom pending bytes).length ≤ bytes.length + pending.toList.length := by
  -- each byte writes one character, and one more if it breaks off a sequence that has been begun
  fun_induction decodeFrom pending bytes <;> simp_all <;> omega

theorem length_decodeReplacing_le (bytes : List Nat) :
    (decodeReplacing bytes).length ≤ bytes.length :=
  length_decodeFrom_le none bytes

theorem decodeReplacing_append {cs : List Char} (hcs : Ascii cs) (bytes : List Nat) :
    decodeReplacing (cs.map Char.toNat ++ bytes) = cs ++ decodeReplacing bytes := by
  induction cs with
  | nil => rfl
  | cons c cs ih =>
    obtain ⟨hc, hcs⟩ := ascii_cons.mp hcs
    have hrest := ih hcs
    rw [decodeReplacing] at hrest ⊢
    rw [List.map_cons, List.cons_append, decodeFrom, if_pos hc, hrest, Char.ofNat_toNat,
      List.cons_append, decodeReplacing]

end Text.Utf8

namespace Url

open Text.Utf8

/-! ## Escapes -/

/-- Somewhere in a text a percent sign is followed by two hexadecimal digits. -/
def HasEscape (cs : List Char) : Prop :=
  ∃ before a b after, cs = before ++ '%' :: a :: b :: after ∧
    isHexDigit a = true ∧ isHexDigit b = true

theorem not_hasEscape_nil : ¬ HasEscape [] := by
  rintro ⟨before, a, b, after, heq, -⟩
  simp at heq

/-- An escape is at the beginning or behind the first character. -/
theorem hasEscape_cons {c : Char} {cs : List Char} :
    HasEscape (c :: cs) ↔
      (∃ a b after, c = '%' ∧ cs = a :: b :: after ∧ isHexDigit a = true ∧ isHexDigit b = true) ∨
        HasEscape cs := by
  constructor
  · rintro ⟨before, a, b, after, heq, ha, hb⟩
    cases before with
    | nil =>
      obtain ⟨rfl, rfl⟩ := List.cons.inj heq
      exact Or.inl ⟨a, b, after, rfl, rfl, ha, hb⟩
    | cons d before =>
      obtain ⟨-, rfl⟩ := List.cons.inj heq
      exact Or.inr ⟨before, a, b, after, rfl, ha, hb⟩
  · rintro (⟨a, b, after, rfl, rfl, ha, hb⟩ | ⟨before, a, b, after, rfl, ha, hb⟩)
    · exact ⟨[], a, b, after, rfl, ha, hb⟩
    · exact ⟨c :: before, a, b, after, rfl, ha, hb⟩

theorem isHexDigit_ascii {c : Char} (h : isHexDigit c = true) : c.toNat < 128 := by
  simp only [isHexDigit, Char.isDigit, Bool.or_eq_true, Bool.and_eq_true, decide_eq_true_eq,
    Char.le_def, UInt32.le_iff_toNat_le] at h
  have hval : c.toNat = c.val.toNat := rfl
  simp at h
  omega

/-- A character outside ASCII is in no escape. -/
theorem hasEscape_append_cons {c : Char} (hc : ¬ c.toNat < 128) {x y : List Char} :
    HasEscape (x ++ c :: y) ↔ HasEscape x ∨ HasEscape y := by
  have hhex : isHexDigit c ≠ true := fun h => hc (isHexDigit_ascii h)
  have hpercent : c ≠ '%' := by
    rintro rfl
    exact hc (by decide)
  induction x with
  | nil => simp [hasEscape_cons, hpercent, not_hasEscape_nil]
  | cons d x ih =>
    have hfirst : (∃ a b after, d = '%' ∧ x ++ c :: y = a :: b :: after ∧ isHexDigit a = true ∧
          isHexDigit b = true) ↔
        ∃ a b after, d = '%' ∧ x = a :: b :: after ∧ isHexDigit a = true ∧ isHexDigit b = true := by
      constructor
      · rintro ⟨a, b, after, hd, heq, ha, hb⟩
        -- the two digits stand before `c`
        rcases x with _ | ⟨e, _ | ⟨f, x⟩⟩
        · exact absurd ((List.cons.inj heq).1 ▸ ha) hhex
        · exact absurd ((List.cons.inj (List.cons.inj heq).2).1 ▸ hb) hhex
        · rw [List.cons_append, List.cons_append, List.cons.injEq, List.cons.injEq] at heq
          obtain ⟨rfl, rfl, -⟩ := heq
          exact ⟨e, f, x, hd, rfl, ha, hb⟩
      · rintro ⟨a, b, after, hd, rfl, ha, hb⟩
        exact ⟨a, b, after ++ c :: y, hd, rfl, ha, hb⟩
    rw [List.cons_append, hasEscape_cons, hfirst, hasEscape_cons, or_assoc]
    exact or_congr_right ih

/-! ## The bytes of ASCII text -/

theorem length_percentBytes_le (cs : List Char) : (percentBytes cs).length ≤ cs.length := by
  fun_induction percentBytes cs with
  | case1 a b rest hhex ih =>
    simp only [List.length_cons]
    omega
  | case2 a b rest hhex ih =>
    simp only [List.length_cons] at ih ⊢
    omega
  | case3 c rest hother ih =>
    simp only [List.length_cons]
    omega
  | case4 => rfl

theorem length_percentBytes_lt {cs : List Char} (h : HasEscape cs) :
    (percentBytes cs).length < cs.length := by
  fun_induction percentBytes cs with
  | case1 a b rest hhex =>
    -- three characters give one byte, which is all the room that is needed
    have hle := length_percentBytes_le rest
    simp only [List.length_cons]
    omega
  | case2 a b rest hhex ih =>
    -- this percent sign is no escape, so there is one behind it
    rcases hasEscape_cons.mp h with ⟨a', b', after, -, heq, ha, hb⟩ | hrest
    · cases heq
      simp [ha, hb] at hhex
    · have hlt := ih hrest
      simp only [List.length_cons] at hlt ⊢
      omega
  | case3 c rest hother ih =>
    rcases hasEscape_cons.mp h with ⟨a, b, after, rfl, rfl, -, -⟩ | hrest
    · exact absurd rfl (hother a b after rfl)
    · have hlt := ih hrest
      simp only [List.length_cons]
      omega
  | case4 => exact absurd h not_hasEscape_nil

theorem percentBytes_of_not_hasEscape {cs : List Char} (h : ¬ HasEscape cs) :
    percentBytes cs = cs.map Char.toNat := by
  fun_induction percentBytes cs with
  | case1 a b rest hhex =>
    rw [Bool.and_eq_true] at hhex
    exact absurd ⟨[], a, b, rest, rfl, hhex.1, hhex.2⟩ h
  | case2 a b rest hhex ih =>
    rw [ih fun hrest => h (hasEscape_cons.mpr (Or.inr hrest))]
    rfl
  | case3 c rest hother ih =>
    rw [ih fun hrest => h (hasEscape_cons.mpr (Or.inr hrest)), List.map_cons]
  | case4 => rfl

theorem percentBytes_append {plain : List Char} (h : '%' ∉ plain) (cs : List Char) :
    percentBytes (plain ++ cs) = plain.map Char.toNat ++ percentBytes cs := by
  induction plain with
  | nil => rfl
  | cons c plain ih =>
    rw [List.mem_cons, not_or] at h
    rw [List.cons_append, percentBytes, ih h.2, List.map_cons, List.cons_append]
    intro a b rest hc
    exact absurd hc.symm h.1

/-! ## Reading escapes -/

theorem length_run_le (run : List Char) :
    (decodeReplacing (percentBytes run.reverse)).length ≤ run.length :=
  calc (decodeReplacing (percentBytes run.reverse)).length
      ≤ (percentBytes run.reverse).length := length_decodeReplacing_le _
    _ ≤ run.reverse.length := length_percentBytes_le _
    _ = run.length := List.length_reverse

theorem length_run_lt {run : List Char} (h : HasEscape run.reverse) :
    (decodeReplacing (percentBytes run.reverse)).length < run.length :=
  calc (decodeReplacing (percentBytes run.reverse)).length
      ≤ (percentBytes run.reverse).length := length_decodeReplacing_le _
    _ < run.reverse.length := length_percentBytes_lt h
    _ = run.length := List.length_reverse

theorem unescapeFrom_length_le (run cs : List Char) :
    (unescapeFrom run cs).length ≤ run.length + cs.length := by
  induction cs generalizing run with
  | nil => exact length_run_le run
  | cons c cs ih =>
    rw [unescapeFrom]
    split
    · have hle := ih (c :: run)
      simp only [List.length_cons] at hle ⊢
      omega
    · have hrun := length_run_le run
      have hle := ih []
      simp only [List.length_append, List.length_cons, List.length_nil] at hle ⊢
      omega

theorem unescapeFrom_length_lt {run cs : List Char} (h : HasEscape (run.reverse ++ cs)) :
    (unescapeFrom run cs).length < run.length + cs.length := by
  induction cs generalizing run with
  | nil =>
    rw [List.append_nil] at h
    exact length_run_lt h
  | cons c cs ih =>
    rw [unescapeFrom]
    split
    · -- the run grows, and with the rest it is the same text
      have hlt := @ih (c :: run) (by simpa using h)
      simp only [List.length_cons] at hlt ⊢
      omega
    · rename_i hc
      simp only [List.length_append, List.length_cons]
      -- the run ends here, so the escape is in it or behind
      rcases (hasEscape_append_cons hc).mp h with hbefore | hafter
      · have hlt := length_run_lt hbefore
        have hle := unescapeFrom_length_le [] cs
        simp only [List.length_nil] at hle
        omega
      · have hle := length_run_le run
        have hlt := @ih [] hafter
        simp only [List.length_nil] at hlt
        omega

theorem unescapeFrom_of_not_hasEscape {run cs : List Char} (hrun : Ascii run)
    (h : ¬ HasEscape (run.reverse ++ cs)) : unescapeFrom run cs = run.reverse ++ cs := by
  -- a run without escapes is read as it stands, byte by byte
  have hread : ∀ {run : List Char}, Ascii run → ¬ HasEscape run.reverse →
      decodeReplacing (percentBytes run.reverse) = run.reverse := by
    intro run hrun hnone
    have hreverse : Ascii run.reverse := fun c hc => hrun c (List.mem_reverse.mp hc)
    rw [percentBytes_of_not_hasEscape hnone]
    simpa [decodeReplacing, decodeFrom] using decodeReplacing_append hreverse []
  induction cs generalizing run with
  | nil =>
    rw [List.append_nil] at h ⊢
    exact hread hrun h
  | cons c cs ih =>
    rw [unescapeFrom]
    split
    · rename_i hc
      rw [ih (ascii_cons.mpr ⟨hc, hrun⟩) (by simpa using h), List.reverse_cons, List.append_assoc,
        List.singleton_append]
    · rename_i hc
      rw [hasEscape_append_cons hc, not_or] at h
      rw [hread hrun h.1, ih ascii_nil h.2]
      rfl

/-- ASCII characters join the run. -/
theorem unescapeFrom_append {plain : List Char} (hplain : Ascii plain) (run cs : List Char) :
    unescapeFrom run (plain ++ cs) = unescapeFrom (plain.reverse ++ run) cs := by
  induction plain generalizing run with
  | nil => rfl
  | cons c plain ih =>
    obtain ⟨hc, hplain⟩ := ascii_cons.mp hplain
    rw [List.cons_append, unescapeFrom, if_pos hc, ih hplain, List.reverse_cons, List.append_assoc,
      List.singleton_append]

/-- What is in front of a run and has no percent sign is read as it stands. -/
theorem unescapeFrom_front {plain : List Char} (hplain : Ascii plain) (hpercent : '%' ∉ plain)
    (run cs : List Char) :
    unescapeFrom (run ++ plain.reverse) cs = plain ++ unescapeFrom run cs := by
  -- runs are kept backwards, so what is in front of the text is at the end of the run
  have hread : ∀ run : List Char, decodeReplacing (percentBytes (run ++ plain.reverse).reverse) =
      plain ++ decodeReplacing (percentBytes run.reverse) := by
    intro run
    rw [List.reverse_append, List.reverse_reverse, percentBytes_append hpercent,
      decodeReplacing_append hplain]
  induction cs generalizing run with
  | nil => exact hread run
  | cons c cs ih =>
    rw [unescapeFrom, unescapeFrom]
    split
    · exact ih (c :: run)
    · rw [hread, List.append_assoc]

/-- What stands in front of a text and has no percent sign is kept. -/
theorem unescape_append {plain : String} (hplain : Ascii plain.toList) (hpercent : '%' ∉ plain.toList)
    (s : String) : unescape (plain ++ s) = plain ++ unescape s := by
  have hfront := unescapeFrom_front hplain hpercent [] s.toList
  rw [List.nil_append] at hfront
  rw [unescape, String.toList_append, unescapeFrom_append hplain, List.append_nil, hfront,
    String.ofList_append, String.ofList_toList, unescape]

theorem length_unescape_lt {s : String} (h : HasEscape s.toList) :
    (unescape s).length < s.length := by
  have hlt := @unescapeFrom_length_lt [] s.toList h
  rw [List.length_nil, Nat.zero_add, String.length_toList] at hlt
  rwa [unescape, String.length_ofList]

/-- Only a text without an escape is as long as before when its escapes are read. -/
theorem not_hasEscape_of_length {s : String} (h : s.length ≤ (unescape s).length) :
    ¬ HasEscape s.toList := by
  intro hescape
  have hlt := length_unescape_lt hescape
  omega

/-- The texts that reading escapes does not change are those without an escape. -/
theorem unescape_eq_self_iff {s : String} : unescape s = s ↔ ¬ HasEscape s.toList := by
  constructor
  · intro hself
    exact not_hasEscape_of_length (by rw [hself])
  · intro hnone
    have hsame := @unescapeFrom_of_not_hasEscape [] s.toList ascii_nil hnone
    rw [unescape, hsame]
    exact String.ofList_toList

end Url
end Remedy
