import Remedy.Proofs.Template.Filling
import Remedy.Proofs.Text.Search

/-!
# Solved examples in prompts

A solved example is shown with everything escaped for markup. Its code, its diff or its summary can be
found in the text as it is only if escaping leaves it findable: brackets and quotation marks are lost,
and an ampersand becomes `&amp;`, which still begins with an ampersand. So a text with one ampersand
is found again if what follows the ampersand is a beginning of `amp;amp;` and so on, and with two it
never is.

Main results:

* `Template.infix_escape_iff`: which texts are found in what escaping makes of them.
* `ConsumerChoice.showOne_eq`: the texts that show a solution.
* `ConsumerChoice.shown_verbatim_iff`: which parts of a solution are shown as they are.
-/

namespace Remedy

/-- A text is cut in one way only at the mark that has a given number of marks in front of it. -/
theorem Text.cut_unique {mark : Char} {p q p' q' : List Char}
    (h : p ++ mark :: q = p' ++ mark :: q') (hcount : p.count mark = p'.count mark) :
    p = p' ∧ q = q' := by
  induction p generalizing p' with
  | nil =>
    cases p' with
    | nil => simpa using h
    | cons d p' =>
      obtain ⟨rfl, -⟩ := List.cons.inj h
      simp at hcount
  | cons c p ih =>
    cases p' with
    | nil =>
      obtain ⟨rfl, -⟩ := List.cons.inj h
      simp at hcount
    | cons d p' =>
      obtain ⟨rfl, htail⟩ := List.cons.inj h
      have htailCount : p.count mark = p'.count mark := by
        rw [List.count_cons, List.count_cons] at hcount
        omega
      obtain ⟨rfl, rfl⟩ := ih htail htailCount
      exact ⟨rfl, rfl⟩

namespace Template

/-! ## Texts that are found again in what escaping makes of them -/

/-- What stands behind the ampersand of an escaped ampersand. -/
def ampersandRest : List Char := ['a', 'm', 'p', ';']

theorem escapeChar_ampersand : escapeChar '&' = '&' :: ampersandRest := by decide

/-- No character of the text has a meaning in markup but ampersands. -/
def OnlyAmpersands (cs : List Char) : Prop := ∀ c ∈ cs, c ∈ markup → c = '&'

instance (cs : List Char) : Decidable (OnlyAmpersands cs) :=
  List.decidableBAll (fun c => c ∈ markup → c = '&') cs

theorem onlyAmpersands_append {as bs : List Char} :
    OnlyAmpersands (as ++ bs) ↔ OnlyAmpersands as ∧ OnlyAmpersands bs :=
  List.forall_mem_append

theorem Plain.onlyAmpersands {cs : List Char} (h : Plain cs) : OnlyAmpersands cs :=
  fun c hc hmarkup => absurd hmarkup (h c hc)

theorem plain_iff {cs : List Char} : Plain cs ↔ OnlyAmpersands cs ∧ '&' ∉ cs := by
  constructor
  · exact fun h => ⟨h.onlyAmpersands, fun hin => h _ hin (by decide)⟩
  · rintro ⟨honly, hnot⟩ c hc hmarkup
    exact hnot (honly c hc hmarkup ▸ hc)

/-- Escaping leaves no bracket and no quotation mark. -/
theorem onlyAmpersands_escape (cs : List Char) : OnlyAmpersands (cs.flatMap escapeChar) := by
  have hescaped : markup.all (fun d => OnlyAmpersands (escapeChar d)) = true := by decide
  intro c hc hmarkup
  obtain ⟨d, -, hcd⟩ := List.mem_flatMap.mp hc
  by_cases hd : d ∈ markup
  · exact of_decide_eq_true (List.all_eq_true.mp hescaped d hd) c hcd hmarkup
  · rw [escapeChar_of_notMem hd, List.mem_singleton] at hcd
    exact absurd (hcd ▸ hmarkup) hd

theorem count_escape {cs : List Char} (h : OnlyAmpersands cs) :
    (cs.flatMap escapeChar).count '&' = cs.count '&' := by
  induction cs with
  | nil => rfl
  | cons c cs ih =>
    obtain ⟨hc, hcs⟩ := List.forall_mem_cons.mp h
    rw [List.flatMap_cons, List.count_append, ih hcs]
    by_cases hmarkup : c ∈ markup
    · rw [hc hmarkup, List.count_cons_self, show (escapeChar '&').count '&' = 1 by decide]
      omega
    · rw [escapeChar_of_notMem hmarkup, List.count_cons, List.count_cons, List.count_nil]
      omega

/-- What escaping leaves findable: no bracket or quotation mark occurs, and what follows an ampersand
also begins the text that escaping puts there, so it is a beginning of `amp;amp;` and so on. -/
structure Spared (cs : List Char) : Prop where
  onlyAmpersands : OnlyAmpersands cs
  repeats : ∀ before after, cs = before ++ '&' :: after → after <+: ampersandRest ++ after

theorem Plain.spared {cs : List Char} (h : Plain cs) : Spared cs where
  onlyAmpersands := h.onlyAmpersands
  repeats := by
    rintro before after rfl
    exact absurd (by decide) (h '&' (by simp))

/-- Up to its first ampersand a text cannot agree with itself moved behind `amp;`. -/
theorem ne_moved {front : List Char} (h : '&' ∉ front) (y z : List Char) :
    front ++ '&' :: y ≠ ampersandRest ++ (front ++ '&' :: z) := by
  intro hsame
  rw [← List.append_assoc] at hsame
  have hcount : front.count '&' = (ampersandRest ++ front).count '&' := by
    simp [List.count_eq_zero_of_not_mem h, ampersandRest]
  have hlength := congrArg List.length (Text.cut_unique hsame hcount).1
  simp only [ampersandRest, List.length_append, List.length_cons, List.length_nil] at hlength
  omega

theorem notMem_of_repeats {after : List Char} (h : after <+: ampersandRest ++ after) :
    '&' ∉ after := by
  intro hin
  obtain ⟨front, rest, rfl, hfront⟩ := List.eq_append_cons_of_mem hin
  obtain ⟨more, hmore⟩ := h
  rw [List.append_assoc, List.cons_append] at hmore
  exact ne_moved hfront _ _ hmore

theorem Spared.infix_escape {cs : List Char} (h : Spared cs) : cs <:+: cs.flatMap escapeChar := by
  by_cases hin : '&' ∈ cs
  · -- all there is to find is the one ampersand with what follows it
    obtain ⟨before, after, rfl, hbefore⟩ := List.eq_append_cons_of_mem hin
    have hrepeats := h.repeats before after rfl
    have hafter := notMem_of_repeats hrepeats
    obtain ⟨hfirst, hrest⟩ := onlyAmpersands_append.mp h.onlyAmpersands
    obtain ⟨-, hlast⟩ := List.forall_mem_cons.mp hrest
    rw [List.flatMap_append, List.flatMap_cons, escapeChar_ampersand,
      flatMap_escapeChar_of_plain (plain_iff.mpr ⟨hfirst, hbefore⟩),
      flatMap_escapeChar_of_plain (plain_iff.mpr ⟨hlast, hafter⟩)]
    have hprefix : '&' :: after <+: '&' :: ampersandRest ++ after :=
      List.cons_prefix_cons.mpr ⟨rfl, hrepeats⟩
    exact ((List.prefix_append_right_inj before).mpr hprefix).isInfix
  · rw [flatMap_escapeChar_of_plain (plain_iff.mpr ⟨h.onlyAmpersands, hin⟩)]

/-- A text that is found in what escaping makes of it, with plain texts around it, is spared. -/
theorem spared_of_infix {front cs back : List Char} (hfront : Plain front) (hback : Plain back)
    (h : cs <:+: front ++ cs.flatMap escapeChar ++ back) : Spared cs := by
  have honly : OnlyAmpersands cs := by
    have htext : OnlyAmpersands (front ++ cs.flatMap escapeChar ++ back) := by
      rw [onlyAmpersands_append, onlyAmpersands_append]
      exact ⟨⟨hfront.onlyAmpersands, onlyAmpersands_escape cs⟩, hback.onlyAmpersands⟩
    exact fun c hc => htext c (h.subset hc)
  refine ⟨honly, ?_⟩
  rintro before after rfl
  obtain ⟨left, right, hfound⟩ := h
  obtain ⟨hbefore, hrest⟩ := onlyAmpersands_append.mp honly
  obtain ⟨-, hafter⟩ := List.forall_mem_cons.mp hrest
  have hfrontCount := List.count_eq_zero_of_not_mem (plain_iff.mp hfront).2
  have hbackCount := List.count_eq_zero_of_not_mem (plain_iff.mp hback).2
  -- both sides have the same ampersands, so there is none left of the place where it is found
  have hcounts := congrArg (List.count '&') hfound
  simp only [List.count_append, count_escape honly, hfrontCount, hbackCount] at hcounts
  have hleft : left.count '&' = 0 := by omega
  -- so the ampersand stands in the same place on both sides, and what follows it agrees
  have hplace : (left ++ before) ++ '&' :: (after ++ right) =
      (front ++ before.flatMap escapeChar) ++
        '&' :: (ampersandRest ++ after.flatMap escapeChar ++ back) := by
    simpa [List.flatMap_append, List.flatMap_cons, escapeChar_ampersand] using hfound
  have hsameCount : (left ++ before).count '&' = (front ++ before.flatMap escapeChar).count '&' := by
    rw [List.count_append, List.count_append, count_escape hbefore, hleft, hfrontCount]
  have hfollows := (Text.cut_unique hplace hsameCount).2
  by_cases hin : '&' ∈ after
  · -- with a further ampersand the text before it would be four characters longer than it is
    obtain ⟨next, rest, rfl, hnext⟩ := List.eq_append_cons_of_mem hin
    obtain ⟨hplain, -⟩ := onlyAmpersands_append.mp hafter
    rw [List.flatMap_append, List.flatMap_cons, escapeChar_ampersand,
      flatMap_escapeChar_of_plain (plain_iff.mpr ⟨hplain, hnext⟩)] at hfollows
    simp only [List.append_assoc, List.cons_append] at hfollows
    exact absurd hfollows (ne_moved hnext _ _)
  · rw [flatMap_escapeChar_of_plain (plain_iff.mpr ⟨hafter, hin⟩)] at hfollows
    refine List.prefix_of_prefix_length_le ⟨right, hfollows⟩ (List.prefix_append _ back) ?_
    simp

/-- The texts that are found in what escaping makes of them are those that it spares. -/
theorem infix_escape_iff {cs : List Char} : cs <:+: cs.flatMap escapeChar ↔ Spared cs := by
  constructor
  · intro h
    have hbare : cs <:+: [] ++ cs.flatMap escapeChar ++ [] := by simpa using h
    exact spared_of_infix (by decide) (by decide) hbare
  · exact Spared.infix_escape

end Template

/-! ## Solutions -/

namespace ConsumerChoice

open Template

/-- What stands before a diff. -/
def diffOpening : String := "Solved example diff:\n```diff\n"

/-- What stands before the code as it was. -/
def beforeOpening : String := "Solved example before changes:\n```\n"

/-- What stands between the code as it was and as it became. -/
def afterOpening : String := "\n```\n\nSolved example after changes:\n```\n"

/-- What stands behind the code as it became. -/
def codeClosing : String := "\n```"

/-- What stands before a summary. -/
def summaryOpening : String := "Summary of changes for solved example:\n\n"

theorem plain_around :
    ∀ text ∈ [diffOpening, beforeOpening, afterOpening, codeClosing, summaryOpening],
      Plain text.toList := by
  decide

/-- The text for one way of showing a solution. -/
def shownText (s : Solution) : ConsumerKind → String
  | .diffOnly => diffOpening ++ escape s.fileDiff
  | .beforeAndAfter =>
    beforeOpening ++ escape s.codeBefore ++ afterOpening ++ escape s.codeAfter ++ codeClosing
  | .llmSummary => s.summary.elim "" fun summary => summaryOpening ++ escape summary

theorem renderNodes_solution_value {s : Solution} {part : String} {text : String}
    (h : s.encode.get? part = some (.str text)) (rest : List TemplateNode) :
    renderNodes layout [("solution", s.encode)] (.value ["solution", part] .escaped :: rest) =
      (renderNodes layout [("solution", s.encode)] rest).map (escape text ++ ·) :=
  renderNodes_cons_of_ok (renderNode_value_of_ok (valueAt_member rfl h) .escaped)

/-- Each way of showing a solution gives its text, with everything escaped. -/
theorem showOne_eq (s : Solution) (kind : ConsumerKind) : showOne s kind = .ok (shownText s kind) := by
  cases kind with
  | diffOnly =>
    have hdiff : s.encode.get? "file_diff" = some (.str s.fileDiff) := rfl
    rw [showOne, fill, render, settleNodes_of_no_tags _ (by decide), Prompt.diffOnly,
      renderNodes_cons_of_ok (renderNode_text _), renderNodes_solution_value hdiff, renderNodes,
      shownText, diffOpening]
    simp [Except.map]
  | beforeAndAfter =>
    have hbefore : s.encode.get? "original_code" = some (.str s.codeBefore) := rfl
    have hafter : s.encode.get? "updated_code" = some (.str s.codeAfter) := rfl
    rw [showOne, fill, render, settleNodes_of_no_tags _ (by decide), Prompt.beforeAndAfter,
      renderNodes_cons_of_ok (renderNode_text _), renderNodes_solution_value hbefore,
      renderNodes_cons_of_ok (renderNode_text _), renderNodes_solution_value hafter,
      renderNodes_cons_of_ok (renderNode_text _), renderNodes, shownText, beforeOpening,
      afterOpening, codeClosing]
    simp [Except.map, String.append_assoc]
  | llmSummary =>
    rw [showOne, shownText]
    cases hsummary : s.summary with
    | none => rfl
    | some summary =>
      have hpart : s.encode.get? "llm_summary" = some (.str summary) := by
        show some (Json.ofText? s.summary) = _
        rw [hsummary, Json.ofText?]
      show fill Prompt.summaryOnly s = .ok (summaryOpening ++ escape summary)
      rw [fill, render, settleNodes_of_no_tags _ (by decide), Prompt.summaryOnly,
        renderNodes_cons_of_ok (renderNode_text _), renderNodes_solution_value hpart, renderNodes,
        summaryOpening]
      simp [Except.map]

/-- The texts of a solution that are quoted when it is shown. -/
inductive Quotation where
  | diff
  | codeBefore
  | codeAfter
  | summary
deriving DecidableEq

namespace Quotation

/-- The way of showing a solution in which the text is quoted. -/
def kind : Quotation → ConsumerKind
  | .diff => .diffOnly
  | .codeBefore => .beforeAndAfter
  | .codeAfter => .beforeAndAfter
  | .summary => .llmSummary

/-- The text itself; a solution may have no summary. -/
def text? (s : Solution) : Quotation → Option String
  | .diff => some s.fileDiff
  | .codeBefore => some s.codeBefore
  | .codeAfter => some s.codeAfter
  | .summary => s.summary

/-- What else of the solution is quoted beside it. -/
def beside (s : Solution) : Quotation → String
  | .diff => ""
  | .codeBefore => s.codeAfter
  | .codeAfter => s.codeBefore
  | .summary => ""

end Quotation

/-- What a way of showing a solution puts around a text that it quotes is plain, but for what it
quotes beside it. -/
theorem exists_around {s : Solution} {q : Quotation} {x : String} (hx : q.text? s = some x) :
    ∃ front back, (shownText s q.kind).toList = front ++ x.toList.flatMap escapeChar ++ back ∧
      OnlyAmpersands front ∧ OnlyAmpersands back ∧
      (Plain (q.beside s).toList → Plain front ∧ Plain back) := by
  have hbeside := onlyAmpersands_escape (q.beside s).toList
  have hopening := plain_around beforeOpening (by simp)
  have hmiddle := plain_around afterOpening (by simp)
  have hclosing := plain_around codeClosing (by simp)
  cases q with
  | diff =>
    obtain rfl : s.fileDiff = x := Option.some.inj hx
    have hdiff := plain_around diffOpening (by simp)
    refine ⟨diffOpening.toList, [], ?_, hdiff.onlyAmpersands, by decide, fun _ => ⟨hdiff, by decide⟩⟩
    simp [shownText, Quotation.kind, escape]
  | codeBefore =>
    obtain rfl : s.codeBefore = x := Option.some.inj hx
    refine ⟨beforeOpening.toList,
      afterOpening.toList ++ s.codeAfter.toList.flatMap escapeChar ++ codeClosing.toList, ?_,
      hopening.onlyAmpersands, ?_, fun hplain => ⟨hopening, ?_⟩⟩
    · simp [shownText, Quotation.kind, escape]
    · rw [onlyAmpersands_append, onlyAmpersands_append]
      exact ⟨⟨hmiddle.onlyAmpersands, hbeside⟩, hclosing.onlyAmpersands⟩
    · have hafter : Plain s.codeAfter.toList := hplain
      rw [flatMap_escapeChar_of_plain hafter, plain_append, plain_append]
      exact ⟨⟨hmiddle, hafter⟩, hclosing⟩
  | codeAfter =>
    obtain rfl : s.codeAfter = x := Option.some.inj hx
    refine ⟨beforeOpening.toList ++ s.codeBefore.toList.flatMap escapeChar ++ afterOpening.toList,
      codeClosing.toList, ?_, ?_, hclosing.onlyAmpersands, fun hplain => ⟨?_, hclosing⟩⟩
    · simp [shownText, Quotation.kind, escape]
    · rw [onlyAmpersands_append, onlyAmpersands_append]
      exact ⟨⟨hopening.onlyAmpersands, hbeside⟩, hmiddle.onlyAmpersands⟩
    · have hbefore : Plain s.codeBefore.toList := hplain
      rw [flatMap_escapeChar_of_plain hbefore, plain_append, plain_append]
      exact ⟨⟨hopening, hbefore⟩, hmiddle⟩
  | summary =>
    have hsummary : s.summary = some x := hx
    have hplain := plain_around summaryOpening (by simp)
    refine ⟨summaryOpening.toList, [], ?_, hplain.onlyAmpersands, by decide,
      fun _ => ⟨hplain, by decide⟩⟩
    simp [shownText, Quotation.kind, hsummary, escape]

/-- Which parts of a solution are shown as they are. A part that escaping spares can be found in the
text; a part with a bracket or a quotation mark cannot; and if nothing beside it is escaped, those
that escaping spares are the only ones that can be found. -/
theorem shown_verbatim_iff {s : Solution} {q : Quotation} {x : String} (hx : q.text? s = some x) :
    showOne s q.kind = .ok (shownText s q.kind) ∧
      (Spared x.toList → Text.contains (shownText s q.kind) x = true) ∧
      (Text.contains (shownText s q.kind) x = true → OnlyAmpersands x.toList) ∧
      (Plain (q.beside s).toList →
        (Text.contains (shownText s q.kind) x = true ↔ Spared x.toList)) := by
  obtain ⟨front, back, htext, hfront, hback, hplain⟩ := exists_around hx
  rw [Text.contains_iff, htext]
  have hspared (h : Spared x.toList) :
      x.toList <:+: front ++ x.toList.flatMap escapeChar ++ back :=
    h.infix_escape.trans (List.infix_append front _ back)
  refine ⟨showOne_eq s q.kind, hspared, fun h c hc => ?_, fun hbeside => ⟨fun h => ?_, hspared⟩⟩
  · have hall : OnlyAmpersands (front ++ x.toList.flatMap escapeChar ++ back) := by
      rw [onlyAmpersands_append, onlyAmpersands_append]
      exact ⟨⟨hfront, onlyAmpersands_escape _⟩, hback⟩
    exact hall c (h.subset hc)
  · exact spared_of_infix (hplain hbeside).1 (hplain hbeside).2 h

/-- A solution with brackets in its code and ampersands elsewhere. -/
def marked : Solution where
  uri := "file:///A.java"
  fileDiff := "a &"
  codeBefore := "List<String> a;"
  codeAfter := "var a;"
  summary := some "a & b"

/-- Plain code is found, also beside code that is not. An ampersand at the end can still be found, one
before other text cannot. -/
theorem shown_verbatim_iff_ampersand :
    Text.contains (shownText marked .beforeAndAfter) "var a;" = true ∧
      Text.contains (shownText marked .diffOnly) "a &" = true ∧
      Text.contains (shownText marked .llmSummary) "a & b" = false := by
  have hcode := shown_verbatim_iff (s := marked) (q := .codeAfter) rfl
  have hdiff := shown_verbatim_iff (s := marked) (q := .diff) rfl
  have hsummary := shown_verbatim_iff (s := marked) (q := .summary) rfl
  have hspared : Spared "a &".toList := by
    refine infix_escape_iff.mp ⟨[], ampersandRest, ?_⟩
    decide
  have hplain : Plain "var a;".toList := by decide
  refine ⟨hcode.2.1 hplain.spared, hdiff.2.1 hspared, Bool.eq_false_iff.mpr fun hfound => ?_⟩
  have hrepeats := ((hsummary.2.2.2 (by decide)).mp hfound).repeats ['a', ' '] [' ', 'b'] rfl
  exact absurd hrepeats (by decide)

/-- The code is not in the text that is to show it. -/
theorem typed_list_not_shown :
    showOne marked .beforeAndAfter =
        .ok ("Solved example before changes:\n```\nList&lt;String&gt; a;\n```\n\n" ++
          "Solved example after changes:\n```\nvar a;\n```") ∧
      Text.contains (shownText marked .beforeAndAfter) marked.codeBefore = false := by
  rw [showOne_eq]
  exact ⟨congrArg Except.ok (by decide), by decide⟩

end ConsumerChoice
end Remedy
