import Remedy.Answer.Basic
import Remedy.Proofs.Text.Search

/-!
# Answers in the form that is asked for

A model is asked to answer with three sections under fixed titles, the second of which holds the
updated file in a code block. Reading such an answer gives its three parts back, without the blanks at
their ends. It does so also when the parts have fences, hashes or pieces of titles in them, as long as
no later title stands in an earlier part and no fence in the code.

Main results:

* `sections_eq`: the sections of any answer are the texts under its titles, and an empty one for its
  end.
* `sections_three`: the sections of an answer that has all three titles in order.
* `codeBlocks_fenced`: the code of a block that is opened and closed by fences.
* `parse_written`: what is read from an answer in the form that is asked for.
-/

namespace Remedy.Answer

open Remedy.Text

/-! ## Places of titles -/

theorem newline_notMem_title {title : String} (h : title ∈ titles) : '\n' ∉ title.toList := by
  revert title
  decide

theorem title_ne_nil {title : String} (h : title ∈ titles) : title.toList ≠ [] := by
  revert title
  decide

theorem firstIndex?_here (title : String) (rest : List Char) :
    firstIndex? (title.toList ++ rest) title = some 0 := by
  rw [firstIndex?, cut?_append]
  rfl

/-- A title that does not stand before a line break is looked for behind it. -/
theorem firstIndex?_past {title : String} (htitle : title ∈ titles) {x : List Char}
    (hx : ¬ title.toList <:+: x) (y : List Char) :
    firstIndex? (x ++ '\n' :: y) title = (firstIndex? y title).map (x.length + 1 + ·) := by
  have hcut := cut?_past (title_ne_nil htitle) (newline_notMem_title htitle) hx y
  rw [firstIndex?, firstIndex?, hcut]
  cases cut? title.toList y with
  | none => rfl
  | some found => simp [Nat.add_assoc, Nat.add_comm 1]

/-! ## The texts under titles -/

/-- The text under each mark, up to the next mark or the end. -/
def bodies (document : List Char) : List (Nat × String) → List (String × List Char)
  | [] => []
  | [(i, t)] => [(t, between document (i + t.length) document.length)]
  | (i, t) :: (j, u) :: rest =>
    (t, between document (i + t.length) j) :: bodies document ((j, u) :: rest)

/-- Nothing stands behind the end of a document. -/
theorem underMark_end (document : List Char) :
    underMark document (endMark document) (endMark document) = ("end", "") := by
  have hnone : document.length - (document.length + "end".length) = 0 := by omega
  rw [underMark, endMark, between, hnone, List.take_zero]
  rfl

theorem zipWith_underMark (document : List Char) (ms : List (Nat × String)) :
    List.zipWith (underMark document) (ms ++ [endMark document])
        ((ms ++ [endMark document]).tail ++ [endMark document]) =
      (bodies document ms).map (fun s => (s.1, String.ofList (trimmed s.2))) ++ [("end", "")] := by
  fun_induction bodies document ms with
  | case1 => rw [← underMark_end document]; rfl
  | case2 i t => rw [← underMark_end document]; rfl
  | case3 i t j u rest ih => exact congrArg (underMark document (i, t) (j, u) :: ·) ih

/-- The sections are the texts under the titles that occur, and an empty one under the end. -/
theorem sections_eq (document : String) :
    sections document =
      (bodies document.toList (marks document.toList)).map
        (fun s => (s.1, String.ofList (trimmed s.2))) ++ [("end", "")] :=
  zipWith_underMark document.toList (marks document.toList)

/-! ## Three sections -/

theorem between_eq {document x y z : List Char} {i j : Nat} (h : document = x ++ (y ++ z))
    (hi : i = x.length) (hj : j = x.length + y.length) : between document i j = y := by
  rw [between, h, hi, hj, List.drop_left, Nat.add_sub_cancel_left, List.take_left]

/-- A document of three sections whose titles first occur where the sections begin. -/
theorem sections_three (document : String) (first second third : List Char)
    (hdocument : document.toList = reasoningTitle.toList ++ (first ++ (updatedFileTitle.toList ++
      (second ++ (additionalTitle.toList ++ third)))))
    (hsecond : firstIndex? document.toList updatedFileTitle =
      some (reasoningTitle.length + first.length))
    (hthird : firstIndex? document.toList additionalTitle =
      some (reasoningTitle.length + first.length + (updatedFileTitle.length + second.length))) :
    sections document =
      [(reasoningTitle, String.ofList (trimmed first)),
        (updatedFileTitle, String.ofList (trimmed second)),
        (additionalTitle, String.ofList (trimmed third)), ("end", "")] := by
  have hfirst : firstIndex? document.toList reasoningTitle = some 0 := by
    rw [hdocument, firstIndex?_here]
  have hmarks : marks document.toList =
      [(0, reasoningTitle), (reasoningTitle.length + first.length, updatedFileTitle),
        (reasoningTitle.length + first.length + (updatedFileTitle.length + second.length),
          additionalTitle)] := by
    rw [marks]
    simp only [titles, List.filterMap_cons, List.filterMap_nil, hfirst, hsecond, hthird,
      Option.map_some]
    -- the titles are found in the order in which they are asked for
    refine List.mergeSort_of_pairwise ?_
    simp
  -- each section lies between what stands before it and what stands behind it
  have hone : between document.toList (0 + reasoningTitle.length)
      (reasoningTitle.length + first.length) = first :=
    between_eq hdocument (by simp [String.length_toList]) (by simp [String.length_toList])
  have htwo : between document.toList
      (reasoningTitle.length + first.length + updatedFileTitle.length)
      (reasoningTitle.length + first.length + (updatedFileTitle.length + second.length)) =
      second := by
    refine between_eq (x := reasoningTitle.toList ++ (first ++ updatedFileTitle.toList))
      (z := additionalTitle.toList ++ third) ?_ ?_ ?_
    · simp [hdocument]
    · simp [String.length_toList, Nat.add_assoc]
    · simp [String.length_toList, Nat.add_assoc]
  have hthree : between document.toList
      (reasoningTitle.length + first.length + (updatedFileTitle.length + second.length) +
        additionalTitle.length) document.toList.length = third := by
    refine between_eq (x := reasoningTitle.toList ++ (first ++ (updatedFileTitle.toList ++
      (second ++ additionalTitle.toList)))) (z := []) ?_ ?_ ?_
    · simp [hdocument]
    · simp [String.length_toList, Nat.add_assoc]
    · simp [hdocument, Nat.add_assoc]
  rw [sections_eq, hmarks]
  simp only [bodies, hone, htwo, hthree]
  rfl

/-! ## Code blocks -/

theorem isBlank_newline : isBlank '\n' = true := by decide

theorem isBlank_backtick : isBlank '`' = false := by decide

theorem isWord_newline : isWord '\n' = false := by decide +kernel

theorem newline_notMem_fence : '\n' ∉ fence := by decide

/-- A fence behind a line break ends code that has no fence in it and is not empty. -/
theorem untilFence_append {code : List Char} (hcode : code ≠ []) (hfence : ¬ fence <:+: code)
    (rest : List Char) :
    untilFence (code ++ '\n' :: (fence ++ rest)) = some (code ++ ['\n'], rest) := by
  obtain ⟨c, cs, rfl⟩ := List.exists_cons_of_ne_nil hcode
  have hcs : ¬ fence <:+: cs := fun h => hfence (h.trans (List.suffix_cons c cs).isInfix)
  have hcut := cut?_past (by decide : fence ≠ []) newline_notMem_fence hcs (fence ++ rest)
  rw [List.cons_append, untilFence, hcut, cut?_append]
  rfl

/-- A block between two fences has one code, which begins after the blanks behind the tag. -/
theorem codeBlocks_fenced {tag code : List Char} (htag : ∀ c ∈ tag, isWord c = true)
    (hsolid : ∃ c ∈ code, isBlank c = false) (hfence : ¬ fence <:+: code) :
    codeBlocks (String.ofList (fence ++ (tag ++ '\n' :: (code ++ '\n' :: fence)))) =
      [String.ofList (trimFront code ++ ['\n'])] := by
  have hfront : trimFront code ≠ [] := by
    obtain ⟨c, hc, hblank⟩ := hsolid
    intro hnil
    have hall := List.dropWhile_eq_nil_iff.mp hnil c hc
    rw [hblank] at hall
    cases hall
  have hno : ¬ fence <:+: trimFront code :=
    fun h => hfence (h.trans (List.dropWhile_suffix isBlank).isInfix)
  have hopened : front? fence (fence ++ (tag ++ '\n' :: (code ++ '\n' :: fence))) =
      some (tag ++ '\n' :: (code ++ '\n' :: fence)) := front?_eq_some_iff.mpr rfl
  -- the tag is taken as a whole, since the line break behind it is no word character
  have htagged : (tag ++ '\n' :: (code ++ '\n' :: fence)).dropWhile isWord =
      '\n' :: (code ++ '\n' :: fence) := by
    rw [List.dropWhile_append_of_pos htag, List.dropWhile_cons_of_neg (by simp [isWord_newline])]
  -- so are the blanks in front of the code
  have hblanks : ('\n' :: (code ++ '\n' :: fence)).dropWhile isBlank =
      trimFront code ++ '\n' :: (fence ++ []) := by
    rw [List.dropWhile_cons_of_pos isBlank_newline, List.dropWhile_append, if_neg (by
      simpa [trimFront, List.isEmpty_iff] using hfront), trimFront, List.append_nil]
  have hblock : blockHere (fence ++ (tag ++ '\n' :: (code ++ '\n' :: fence))) =
      some (trimFront code ++ ['\n'], []) := by
    rw [blockHere, hopened]
    dsimp only
    rw [htagged, hblanks, List.takeWhile_cons_of_pos isBlank_newline, codeAfter,
      untilFence_append hfront hno]
    rfl
  rw [codeBlocks, String.toList_ofList]
  generalize hlist : fence ++ (tag ++ '\n' :: (code ++ '\n' :: fence)) = cs at hblock ⊢
  -- nothing is left behind the block
  have hblocks : ∀ fuel, blocksFrom (fuel + 1) cs = [trimFront code ++ ['\n']] := by
    intro fuel
    cases cs with
    | nil => cases hblock
    | cons c cs =>
      rw [blocksFrom, hblock]
      cases fuel with
      | zero => rfl
      | succ fuel => rfl
  rw [hblocks]
  rfl

/-! ## Reading an answer -/

/-- An answer in the form that is asked for. -/
def written (reasoning tag code additional : String) : String :=
  "## Reasoning\n" ++ reasoning ++ "\n## Updated File\n```" ++ tag ++ "\n" ++ code ++
    "\n```\n\n## Additional Information\n" ++ additional

/-- The characters of such an answer, line by line. -/
theorem toList_written (reasoning tag code additional : String) :
    (written reasoning tag code additional).toList =
      reasoningTitle.toList ++ '\n' :: (reasoning.toList ++ '\n' :: (updatedFileTitle.toList ++
        '\n' :: ((fence ++ tag.toList) ++ '\n' :: (code.toList ++ '\n' :: (fence ++ '\n' ::
          ([] ++ '\n' :: (additionalTitle.toList ++ '\n' :: additional.toList))))))) := by
  have hfirst : "## Reasoning\n".toList = reasoningTitle.toList ++ ['\n'] := by decide
  have hsecond : "\n## Updated File\n```".toList =
      '\n' :: (updatedFileTitle.toList ++ '\n' :: fence) := by decide
  have hbreak : "\n".toList = ['\n'] := by decide
  have hthird : "\n```\n\n## Additional Information\n".toList =
      '\n' :: (fence ++ '\n' :: '\n' :: (additionalTitle.toList ++ ['\n'])) := by decide
  unfold written
  simp only [String.toList_append, hfirst, hsecond, hbreak, hthird, List.append_assoc,
    List.cons_append, List.nil_append]

theorem firstIndex?_updatedFile {reasoning : List Char}
    (hreasoning : ¬ updatedFileTitle.toList <:+: reasoning) (rest : List Char) :
    firstIndex? (reasoningTitle.toList ++ '\n' :: (reasoning ++ '\n' ::
      (updatedFileTitle.toList ++ rest))) updatedFileTitle =
        some (reasoningTitle.length + (reasoning.length + 2)) := by
  have htitle : updatedFileTitle ∈ titles := by decide
  have hother : ¬ updatedFileTitle.toList <:+: reasoningTitle.toList := by decide
  rw [firstIndex?_past htitle hother, firstIndex?_past htitle hreasoning, firstIndex?_here,
    String.length_toList]
  simp only [Option.map_some, Option.some.injEq]
  omega

/-- A title has hashes, and the line that opens a block has none. -/
theorem title_not_in_opening {tag : List Char} (htag : ∀ c ∈ tag, isWord c = true) :
    ¬ additionalTitle.toList <:+: fence ++ tag := by
  intro h
  have hhash : '#' ∈ fence ++ tag := h.subset (by decide)
  rcases List.mem_append.mp hhash with hhash | hhash
  · revert hhash
    decide
  · have hword := htag '#' hhash
    revert hword
    decide +kernel

theorem firstIndex?_additional {reasoning tag code : List Char}
    (hreasoning : ¬ additionalTitle.toList <:+: reasoning) (htag : ∀ c ∈ tag, isWord c = true)
    (hcode : ¬ additionalTitle.toList <:+: code) (rest : List Char) :
    firstIndex? (reasoningTitle.toList ++ '\n' :: (reasoning ++ '\n' :: (updatedFileTitle.toList ++
      '\n' :: ((fence ++ tag) ++ '\n' :: (code ++ '\n' :: (fence ++ '\n' ::
        ([] ++ '\n' :: (additionalTitle.toList ++ rest)))))))) additionalTitle =
      some (reasoningTitle.length + (reasoning.length + 2) +
        (updatedFileTitle.length + (fence.length + tag.length + code.length + fence.length + 5))) := by
  have htitle : additionalTitle ∈ titles := by decide
  have hfirst : ¬ additionalTitle.toList <:+: reasoningTitle.toList := by decide
  have hsecond : ¬ additionalTitle.toList <:+: updatedFileTitle.toList := by decide
  have hclosing : ¬ additionalTitle.toList <:+: fence := by decide
  have hempty : ¬ additionalTitle.toList <:+: [] := by decide
  rw [firstIndex?_past htitle hfirst, firstIndex?_past htitle hreasoning,
    firstIndex?_past htitle hsecond, firstIndex?_past htitle (title_not_in_opening htag),
    firstIndex?_past htitle hcode, firstIndex?_past htitle hclosing, firstIndex?_past htitle hempty,
    firstIndex?_here, String.length_toList, String.length_toList]
  simp only [Option.map_some, Option.some.injEq, List.length_append, List.length_nil]
  omega

theorem trimmed_fenced (inner : List Char) :
    trimmed ('\n' :: (fence ++ (inner ++ (fence ++ ['\n', '\n'])))) =
      fence ++ (inner ++ fence) := by
  have hfront : ∀ c ∈ ['\n'], isBlank c = true := by simp [isBlank_newline]
  have hback : ∀ c ∈ ['\n', '\n'], isBlank c = true := by simp [isBlank_newline]
  have hends : trimmed (fence ++ (inner ++ fence)) = fence ++ (inner ++ fence) := by
    have hself := trimmed_eq_self (['`', '`'] ++ (inner ++ ['`', '`'])) isBlank_backtick
      isBlank_backtick
    simpa [fence] using hself
  calc trimmed ('\n' :: (fence ++ (inner ++ (fence ++ ['\n', '\n']))))
      = trimmed (['\n'] ++ ((fence ++ (inner ++ fence)) ++ ['\n', '\n'])) := by simp
    _ = trimmed (fence ++ (inner ++ fence)) := by
        rw [trimmed_blank_append hfront, trimmed_append_blank hback]
    _ = fence ++ (inner ++ fence) := hends

/-- The sections of an answer in the form that is asked for. -/
theorem sections_written {reasoning tag code : String} (additional : String)
    (hsecond : ¬ updatedFileTitle.toList <:+: reasoning.toList)
    (hthird : ¬ additionalTitle.toList <:+: reasoning.toList)
    (hcode : ¬ additionalTitle.toList <:+: code.toList)
    (htag : ∀ c ∈ tag.toList, isWord c = true) :
    sections (written reasoning tag code additional) =
      [(reasoningTitle, strip reasoning),
        (updatedFileTitle, String.ofList
          (fence ++ (tag.toList ++ '\n' :: (code.toList ++ '\n' :: fence)))),
        (additionalTitle, strip additional), ("end", "")] := by
  have hchars := toList_written reasoning tag code additional
  have hblank : ∀ c ∈ ['\n'], isBlank c = true := by simp [isBlank_newline]
  have hsections := sections_three (written reasoning tag code additional)
    ('\n' :: (reasoning.toList ++ ['\n']))
    ('\n' :: (fence ++ ((tag.toList ++ '\n' :: (code.toList ++ ['\n'])) ++
      (fence ++ ['\n', '\n']))))
    ('\n' :: additional.toList)
    (by rw [hchars]; simp)
    (by
      rw [hchars, firstIndex?_updatedFile hsecond]
      simp)
    (by
      rw [hchars, firstIndex?_additional hthird htag hcode]
      simp only [List.length_cons, List.length_append, List.length_nil, Option.some.injEq]
      omega)
  rw [hsections, trimmed_fenced]
  have hfirst : trimmed ('\n' :: (reasoning.toList ++ ['\n'])) = trimmed reasoning.toList :=
    (trimmed_blank_append hblank _).trans (trimmed_append_blank hblank _)
  have hlast : trimmed ('\n' :: additional.toList) = trimmed additional.toList :=
    trimmed_blank_append hblank _
  rw [hfirst, hlast]
  simp [strip]

theorem pickBlock_singleton (g : Guesser) (language block : String) :
    pickBlock g language [block] =
      if g.ofText block = language then strip block else block := by
  rw [pickBlock, List.find?_singleton]
  by_cases hlanguage : g.ofText block = language
  · simp [hlanguage]
  · simp [hlanguage]

/-- The block that such an answer has: the code without the blanks in front of it, and a line
break. -/
def blockOf (code : String) : String :=
  String.ofList (trimFront code.toList) ++ "\n"

theorem blockOf_eq (code : String) :
    blockOf code = String.ofList (trimFront code.toList ++ ['\n']) := by
  rw [blockOf, String.ofList_append]

theorem strip_blockOf (code : String) : strip (blockOf code) = strip code := by
  have hblank : ∀ c ∈ ['\n'], isBlank c = true := by simp [isBlank_newline]
  rw [blockOf_eq, strip, strip, String.toList_ofList, trimmed_append_blank hblank,
    trimmed_trimFront]

/-- **Reading undoes writing.** An answer is written in the form that is asked for, with a reasoning
that has no later title in it, a tag of word characters, and code that has neither the last title nor
a fence in it and is not blank throughout. Then reading it gives the reasoning and the additional
information without the blanks at their ends. The updated file is the code without the blanks at its
ends if the block is in the language that is asked for, and otherwise the block as it stands. -/
theorem parse_written (g : Guesser) (language : String) {reasoning tag code : String}
    (additional : String) (hsecond : ¬ updatedFileTitle.toList <:+: reasoning.toList)
    (hthird : ¬ additionalTitle.toList <:+: reasoning.toList)
    (hcode : ¬ additionalTitle.toList <:+: code.toList) (hfence : ¬ fence <:+: code.toList)
    (hsolid : ∃ c ∈ code.toList, isBlank c = false) (htag : ∀ c ∈ tag.toList, isWord c = true) :
    parse g language (written reasoning tag code additional) =
      { reasoning := strip reasoning
        updatedFile :=
          if g.ofText (blockOf code) = language then strip code else blockOf code
        additional := strip additional } := by
  have hsections := sections_written additional hsecond hthird hcode htag
  have hblocks := codeBlocks_fenced htag hsolid hfence
  have htitles : (updatedFileTitle == reasoningTitle) = false ∧
      (additionalTitle == reasoningTitle) = false ∧
      (additionalTitle == updatedFileTitle) = false := by decide
  rw [parse, hsections]
  simp only [sectionOr, List.lookup_cons, beq_self_eq_true, htitles, Option.getD_some]
  rw [hblocks, ← blockOf_eq, pickBlock_singleton, strip_blockOf]

/-- A guesser that knows a language by its imports. -/
def importGuesser : Guesser where
  ofFile? _ _ := none
  ofText? code := if Text.contains code "import " then some "java" else none

/-- A block and the beginning of a title in the reasoning, backticks in the code and a title in the
additional information do no harm. -/
theorem parse_written_among_strays :
    let reasoning := "## Updated\n```java\nold\n```\n"
    let code := "\n  import a.B; // ``\n"
    let additional := "\tas in ## Reasoning"
    (¬ updatedFileTitle.toList <:+: reasoning.toList ∧
      ¬ additionalTitle.toList <:+: reasoning.toList ∧
      ¬ additionalTitle.toList <:+: code.toList ∧ ¬ fence <:+: code.toList ∧
      (∃ c ∈ code.toList, isBlank c = false) ∧ ∀ c ∈ "java".toList, isWord c = true) ∧
    parse importGuesser "java" (written reasoning "java" code additional) =
      { reasoning := "## Updated\n```java\nold\n```"
        updatedFile := "import a.B; // ``"
        additional := "as in ## Reasoning" } := by
  intro reasoning code additional
  have hsecond : ¬ updatedFileTitle.toList <:+: reasoning.toList := by decide +kernel
  have hthird : ¬ additionalTitle.toList <:+: reasoning.toList := by decide +kernel
  have hcode : ¬ additionalTitle.toList <:+: code.toList := by decide +kernel
  have hfence : ¬ fence <:+: code.toList := by decide +kernel
  have hsolid : ∃ c ∈ code.toList, isBlank c = false := ⟨'i', by decide +kernel, by decide⟩
  have htag : ∀ c ∈ "java".toList, isWord c = true :=
    List.all_eq_true.mp (by decide +kernel)
  refine ⟨⟨hsecond, hthird, hcode, hfence, hsolid, htag⟩, ?_⟩
  rw [parse_written importGuesser "java" additional hsecond hthird hcode hfence hsolid htag]
  decide +kernel

end Remedy.Answer
