import Remedy.Proofs.Detection.Conservation
import Mathlib.Data.List.Infix
import Mathlib.Tactic

/-!
# Which line a detection looks at

The line of an incident is counted from zero. Its range in the old file is found by passing line
breaks, one for each number up to the line and one more, so what is found is the range of the next
line. A break that is not there is at place minus one: the search then goes on from the beginning of
the file, and a line without a break at its end ends at minus one.

Main results:

* `exists_line`: passing `n` breaks leads to the beginning of line `n`, counted around the end of
  the file.
* `lineRange_succ`: the range that is found after one break or more.
* `next_line_is_looked_up`: the range found for a line of a file is never the range of that line.
-/

namespace Remedy.Detection

open Remedy.Action

/-! ## Lines of a text -/

/-- A line of a text, by what stands before it, in it and after it. Lines are counted from zero. -/
structure IsLine (text : List Char) (line : Nat) (before body after : List Char) : Prop where
  parts : text = before ++ (body ++ after)
  number : before.count '\n' = line
  opens : before = [] ∨ ∃ earlier, before = earlier ++ ['\n']
  unbroken : '\n' ∉ body
  closes : after = [] ∨ ∃ later, after = '\n' :: later

/-- The two places delimit a line of a text, without its line break. -/
def Delimits (text : List Char) (line : Nat) (first last : Int) : Prop :=
  ∃ before body after, IsLine text line before body after ∧
    first = before.length ∧ last = before.length + body.length

/-- The number of the last line of a text. -/
def lastLine (text : List Char) : Nat :=
  text.count '\n'

namespace IsLine

variable {text before body after : List Char} {line : Nat}

theorem delimits (h : IsLine text line before body after) :
    Delimits text line before.length (before.length + body.length) :=
  ⟨before, body, after, h, rfl, rfl⟩

theorem lastLine_eq (h : IsLine text line before body after) :
    lastLine text = line + after.count '\n' := by
  rw [lastLine, h.parts, List.count_append, List.count_append, h.number,
    List.count_eq_zero_of_not_mem h.unbroken, Nat.zero_add]

/-- The last line is the one with nothing after it. -/
theorem after_eq_nil_iff (h : IsLine text line before body after) :
    after = [] ↔ line = lastLine text := by
  rw [h.lastLine_eq]
  rcases h.closes with rfl | ⟨later, rfl⟩
  · simp
  · simp

end IsLine

/-- What stands up to the first break of a text, and the rest. -/
theorem exists_upToBreak (cs : List Char) :
    ∃ body after, cs = body ++ after ∧ '\n' ∉ body ∧
      (after = [] ∨ ∃ later, after = '\n' :: later) := by
  induction cs with
  | nil => exact ⟨[], [], rfl, by simp, Or.inl rfl⟩
  | cons c cs ih =>
    by_cases hc : c = '\n'
    · exact ⟨[], c :: cs, rfl, by simp, Or.inr ⟨cs, by rw [hc]⟩⟩
    · obtain ⟨body, after, rfl, hbody, hafter⟩ := ih
      refine ⟨c :: body, after, rfl, ?_, hafter⟩
      rw [List.mem_cons, not_or]
      exact ⟨fun h => hc h.symm, hbody⟩

theorem exists_first_line (text : List Char) :
    ∃ body after, IsLine text 0 [] body after := by
  obtain ⟨body, after, hparts, hbody, hafter⟩ := exists_upToBreak text
  exact ⟨body, after, hparts, rfl, Or.inl rfl, hbody, hafter⟩

/-- Behind the break of a line the next line begins. -/
theorem IsLine.exists_next {text before body later : List Char} {line : Nat}
    (h : IsLine text line before body ('\n' :: later)) :
    ∃ body' after', IsLine text (line + 1) (before ++ body ++ ['\n']) body' after' := by
  obtain ⟨body', after', rfl, hbody', hafter'⟩ := exists_upToBreak later
  refine ⟨body', after', ?_, ?_, Or.inr ⟨_, rfl⟩, hbody', hafter'⟩
  · rw [h.parts]
    simp
  · rw [List.count_append, List.count_append, h.number, List.count_eq_zero_of_not_mem h.unbroken]
    rfl

/-! ## Passing breaks -/

theorem findIdx?_of_notMem {cs : List Char} (h : '\n' ∉ cs) : cs.findIdx? (· == '\n') = none := by
  rw [List.findIdx?_eq_none_iff]
  intro c hc
  rw [beq_eq_false_iff_ne]
  rintro rfl
  exact h hc

theorem findIdx?_past {body : List Char} (h : '\n' ∉ body) (later : List Char) :
    (body ++ '\n' :: later).findIdx? (· == '\n') = some body.length := by
  rw [List.findIdx?_append, findIdx?_of_notMem h, List.findIdx?_cons]
  simp

/-- From the beginning of a line the next break is at its end, and there is none behind the last
line. -/
theorem IsLine.breakFrom_eq {text before body after : List Char} {line : Nat}
    (h : IsLine text line before body after) :
    breakFrom text before.length =
      if line = lastLine text then -1 else (before.length + body.length : Int) := by
  -- the search sees the line and what follows it
  have hdrop : text.drop (before.length : Int).toNat = body ++ after := by
    rw [Int.toNat_natCast, h.parts, List.drop_left]
  rw [breakFrom, hdrop]
  rcases h.closes with hnil | ⟨later, hlater⟩
  · rw [if_pos (h.after_eq_nil_iff.mp hnil), hnil, List.append_nil, findIdx?_of_notMem h.unbroken]
  · have hnotLast : line ≠ lastLine text := by
      intro hlast
      rw [h.after_eq_nil_iff.mpr hlast] at hlater
      cases hlater
    rw [if_neg hnotLast, hlater, findIdx?_past h.unbroken, Int.toNat_natCast]

/-- The line after another; after the last line comes the first. -/
theorem succ_mod_lines {line last : Nat} (hle : line ≤ last) :
    (line + 1) % (last + 1) = if line = last then 0 else line + 1 := by
  split
  · rename_i hlast
    rw [hlast, Nat.mod_self]
  · exact Nat.mod_eq_of_lt (by omega)

/-- Passing `n` breaks leads to the beginning of line `n`, counted around the end of the text. -/
theorem exists_line (text : List Char) (n : Nat) :
    ∃ before body after, IsLine text (n % (lastLine text + 1)) before body after ∧
      (lineRange text n).1 = before.length := by
  -- each break that is passed leads from the beginning of a line to the beginning of the next
  induction n with
  | zero =>
    obtain ⟨body, after, hline⟩ := exists_first_line text
    exact ⟨[], body, after, by rwa [Nat.zero_mod], rfl⟩
  | succ n ih =>
    obtain ⟨before, body, after, hline, hstart⟩ := ih
    have hle : n % (lastLine text + 1) ≤ lastLine text :=
      Nat.le_of_lt_succ (Nat.mod_lt _ (Nat.succ_pos _))
    have hstep : (n + 1) % (lastLine text + 1) =
        if n % (lastLine text + 1) = lastLine text then 0 else n % (lastLine text + 1) + 1 := by
      rw [← succ_mod_lines hle, Nat.mod_add_mod]
    rw [lineRange, hstart, hline.breakFrom_eq, hstep]
    by_cases hlast : n % (lastLine text + 1) = lastLine text
    · -- no break is left: the search goes on from the beginning
      rw [if_pos hlast, if_pos hlast]
      obtain ⟨body', after', hfirst⟩ := exists_first_line text
      exact ⟨[], body', after', hfirst, rfl⟩
    · -- the break at the end of the line is passed
      rw [if_neg hlast, if_neg hlast]
      rcases hline.closes with hnil | ⟨later, rfl⟩
      · exact absurd (hline.after_eq_nil_iff.mp hnil) hlast
      · obtain ⟨body', after', hnext⟩ := hline.exists_next
        refine ⟨_, body', after', hnext, ?_⟩
        simp only [List.length_append, List.length_singleton]
        push_cast
        ring

/-- The range found after one break or more: that of the line the breaks lead to, but for the last
line of the text, whose end is not found. -/
theorem lineRange_succ (text : List Char) (n : Nat) :
    ∃ first last, Delimits text ((n + 1) % (lastLine text + 1)) first last ∧
      lineRange text (n + 1) =
        (first, if (n + 1) % (lastLine text + 1) = lastLine text then -1 else last) := by
  obtain ⟨before, body, after, hline, hstart⟩ := exists_line text (n + 1)
  refine ⟨_, _, hline.delimits, ?_⟩
  rw [← hline.breakFrom_eq, ← hstart]
  rfl

/-! ## Ranges that differ -/

theorem Delimits.nonneg {text : List Char} {line : Nat} {first last : Int}
    (h : Delimits text line first last) : 0 ≤ last := by
  obtain ⟨before, body, after, -, -, rfl⟩ := h
  omega

/-- Two lines do not begin at the same place. -/
theorem Delimits.line_unique {text : List Char} {line line' : Nat} {first last last' : Int}
    (h : Delimits text line first last) (h' : Delimits text line' first last') : line = line' := by
  obtain ⟨before, body, after, hline, rfl, -⟩ := h
  obtain ⟨before', body', after', hline', hlen, -⟩ := h'
  -- both beginnings are the same part of the text
  have hbefore : before = before' := by
    have hparts := hline.parts.symm.trans hline'.parts
    exact (List.append_inj hparts (by exact_mod_cast hlen)).1
  rw [← hline.number, ← hline'.number, hbefore]

/-- **The next line is looked up in place of the line of an incident.** For every text and every line
of it, the range found is never the range of that line. It is the range of the line after it, or of
the first line if there is none after it, and where that is the last line of the text its end is given
as minus one. The mapping between the old and the new file is then asked about the tightest node
around this range. -/
theorem next_line_is_looked_up (text : String) (line : Nat) (hline : line ≤ lastLine text.toList) :
    (∃ first last, Delimits text.toList line first last) ∧
    ¬ Delimits text.toList line (lineRange text.toList (line + 1)).1
      (lineRange text.toList (line + 1)).2 ∧
    ∃ first last stop, Delimits text.toList ((line + 1) % (lastLine text.toList + 1)) first last ∧
      stop = (if (line + 1) % (lastLine text.toList + 1) = lastLine text.toList then -1 else last) ∧
      lineRange text.toList (line + 1) = (first, stop) ∧
      ∀ (s : Setting) (row : IncidentRow) (file newText : String) (oldTree newTree : SyntaxTree)
        (calls : List GitCall), FileFound s row file text newText oldTree newTree →
        row.line = line →
        ((isKept s row).exec calls).1 =
          .ok (s.source.keeps oldTree newTree (oldTree.tightest first stop)) := by
  obtain ⟨before, body, after, hown, -⟩ := exists_line text.toList line
  rw [Nat.mod_eq_of_lt (Nat.lt_succ_of_le hline)] at hown
  obtain ⟨first, last, hnext, hrange⟩ := lineRange_succ text.toList line
  refine ⟨⟨_, _, hown.delimits⟩, fun hclaimed => ?_, first, last, _, hnext, rfl, hrange, ?_⟩
  · -- the line found would be the line itself, so there is no other and its end is minus one
    rw [hrange] at hclaimed
    have hsame := hclaimed.line_unique hnext
    rw [succ_mod_lines hline] at hsame hclaimed
    have hlast : line = lastLine text.toList := by
      by_contra hne
      rw [if_neg hne] at hsame
      omega
    rw [if_pos hlast] at hsame hclaimed
    have hnonneg := hclaimed.nonneg
    rw [if_pos (hsame.symm.trans hlast)] at hnonneg
    omega
  · intro s row file newText oldTree newTree calls hfound hrow
    have hnumber : (row.line + 1).toNat = line + 1 := by
      rw [hrow]
      omega
    rw [isKept_exec hfound, hnumber, hrange]

/-- The tree of a file with one statement on each of its first two lines. -/
def twoStatements : SyntaxTree :=
  .node "file" 0 6 [.node "first" 0 2 [], .node "second" 3 5 []]

/-- The tree of the file without the second statement. -/
def oneStatement : SyntaxTree := .node "file" 0 3 [.node "first" 0 2 []]

/-- Two versions of such a file, of which the new one has the first statement only. A node is found
again under its name. -/
def firstKept : Setting where
  repo :=
    { directory := "/"
      content? := fun what =>
        [("c1:/work/A.java", "a;\nb;\n"), ("c2:/work/A.java", "a;\n")].lookup what }
  oldCommit := "c1"
  newCommit := "c2"
  source :=
    { parse := fun text => .ok (if text = "a;\nb;\n" then twoStatements else oneStatement)
      keeps := fun _ new node => (new :: new.children).any (·.name == node.name) }

/-- For the last line, which is empty, the first one is looked up. -/
theorem first_line_is_looked_up_for_last :
    2 ≤ lastLine "a;\nb;\n".toList ∧
    (∃ first last, Delimits "a;\nb;\n".toList 2 first last) ∧
    ¬ Delimits "a;\nb;\n".toList 2 0 2 ∧
    lineRange "a;\nb;\n".toList 3 = (0, 2) ∧
    ((isKept firstKept (plainRow 0 "A.java" 2)).exec []).1 = .ok true := by
  have hline : 2 ≤ lastLine "a;\nb;\n".toList := by decide
  obtain ⟨hexists, hnot, first, last, stop, -, -, hrange, hkept⟩ :=
    next_line_is_looked_up "a;\nb;\n" 2 hline
  have hfound : FileFound firstKept (plainRow 0 "A.java" 2) "work/A.java" "a;\nb;\n" "a;\n"
      twoStatements oneStatement := ⟨by decide +kernel, rfl, rfl, rfl, rfl⟩
  have hvalue : lineRange "a;\nb;\n".toList 3 = (0, 2) := by decide
  have hends : first = 0 ∧ stop = 2 := by
    rw [hvalue] at hrange
    exact ⟨(Prod.mk.inj hrange).1.symm, (Prod.mk.inj hrange).2.symm⟩
  have hresult := hkept firstKept (plainRow 0 "A.java" 2) _ _ _ _ [] hfound rfl
  rw [hends.1, hends.2] at hresult
  rw [hvalue] at hnot
  exact ⟨hline, hexists, hnot, hvalue, hresult⟩

/-- An incident has moved to the first line, whose statement is kept; but the second line is looked
up, so that the incident counts as new and the one it comes from as solved. -/
theorem kept_first_line_missed :
    let old := [plainRow 1 "A.java" 1]
    let new := [plainRow 0 "A.java" 0]
    Delimits "a;\nb;\n".toList 0 0 2 ∧
    firstKept.source.keeps twoStatements oneStatement (twoStatements.tightest 0 2) = true ∧
    lineRange "a;\nb;\n".toList 1 = (3, 5) ∧ ¬ Delimits "a;\nb;\n".toList 0 3 5 ∧
    ((lineMatch firstKept old new).exec []).1 =
      .ok { fresh := new, unsolved := [], solved := old } := by
  have hfirst : Delimits "a;\nb;\n".toList 0 0 2 :=
    ⟨[], ['a', ';'], ['\n', 'b', ';', '\n'], ⟨rfl, rfl, Or.inl rfl, by decide, Or.inr ⟨_, rfl⟩⟩, rfl,
      rfl⟩
  have hsecond : Delimits "a;\nb;\n".toList 1 3 5 :=
    ⟨['a', ';', '\n'], ['b', ';'], ['\n'],
      ⟨rfl, rfl, Or.inr ⟨['a', ';'], rfl⟩, by decide, Or.inr ⟨_, rfl⟩⟩, rfl, rfl⟩
  refine ⟨hfirst, by decide, by decide, fun h => ?_, by decide +kernel⟩
  exact absurd (h.line_unique hsecond) (by decide)

end Remedy.Detection
