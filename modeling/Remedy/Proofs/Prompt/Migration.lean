import Remedy.Proofs.Template.Filling

/-!
# The prompt for a batch

The prompt that asks for the migration of a file, as a text: instructions, the file between fences, a
block for each incident, and how to answer. The contents of the file, the messages and the solved
examples stand in it as they are, whatever they look like; only the name and the language of the file
are escaped.

Main results:

* `settle_migration`: the template of the prompt without the line breaks at its tags.
* `Issue.DescribedBy.renders_block`: one round of the template gives the block of an incident.
* `migration_prompt_eq`: the prompt for a file and any incidents.
-/

namespace Remedy.Prompt

open Template

/-! ## The template without the line breaks at its tags -/

/-- The text without the line break at its front. -/
def withoutBreak (s : String) : String := String.ofList (s.toList.drop 1)

/-- What a prompt says before the name of the file. -/
def task : String := withoutBreak migrationTask

/-- What a prompt says of the answer. -/
def instructions : String := withoutBreak answerFormat

theorem withoutBreak_lines {rest : List String} (h : rest ≠ []) :
    withoutBreak (lines ("" :: rest)) = lines rest := by
  rw [lines_cons h]
  simp [withoutBreak, String.toList_append]

theorem lines_eq_withoutBreak {rest : List String} (h : rest ≠ []) :
    lines ("" :: rest) = "\n" ++ withoutBreak (lines ("" :: rest)) := by
  rw [withoutBreak_lines h, lines_cons h, String.empty_append]

-- The lines themselves are long, so they are given a name before anything is said of them.
theorem migrationTask_eq : migrationTask = "\n" ++ task := by
  obtain ⟨rest, hrest, hlines⟩ : ∃ rest, rest ≠ [] ∧ migrationTask = lines ("" :: rest) :=
    ⟨_, List.cons_ne_nil _ _, rfl⟩
  rw [task, hlines, ← lines_eq_withoutBreak hrest]

theorem answerFormat_lines :
    ∃ rest, rest ≠ [] ∧ rest.getLast? = some "" ∧ answerFormat = lines ("" :: rest) :=
  ⟨_, List.cons_ne_nil _ _, rfl, rfl⟩

theorem answerFormat_eq : answerFormat = "\n" ++ instructions := by
  obtain ⟨rest, hrest, -, hlines⟩ := answerFormat_lines
  rw [instructions, hlines, ← lines_eq_withoutBreak hrest]

theorem endsLine_instructions : EndsLine instructions.toList := by
  obtain ⟨rest, hrest, hlast, hlines⟩ := answerFormat_lines
  rw [instructions, hlines, withoutBreak_lines hrest]
  exact endsLine_lines hlast

/-- The part for one incident. -/
def settledIssue : Template :=
  [.text "### incident ",
   .value ["loop", "index0"] .escaped,
   .text "\nincident to fix: \"",
   .value ["incident", "message"] .asIs,
   .text "\"\nLine number: ",
   .value ["incident", "line_number"] .escaped,
   .text "\n",
   .whenDefined ["incident", "solution_str"]
     [.text "", .value ["incident", "solution_str"] .asIs, .text "\n"],
   .text ""]

theorem settle_issue :
    settleNodes {} ⟨true, false⟩ true
      (issue (.value ["incident", "message"] .asIs)
        (.whenDefined ["incident", "solution_str"]
          [.text "\n", .value ["incident", "solution_str"] .asIs, .text "\n"])) = settledIssue := by
  -- four texts of the part stand at a tag; the others stand between values and are kept
  have hnumber : settleText {} ⟨true, false⟩ false "\n### incident " = "### incident " :=
    settleText_after_tag "### incident " false
  have hopening : settleText {} ⟨true, false⟩ false "\n" = "" := settleText_after_tag "" false
  have hclosing : settleText {} ⟨true, false⟩ true "\n" = "" :=
    settleText_between_tags (s := "") endsLine_nil false
  have hline : settleText {} ⟨false, false⟩ true "\n" = "\n" :=
    settleText_before_tag (s := "\n") rfl false
  simp only [issue, settleNodes, settleNode, tagFollows, isTag, hnumber, hopening, hclosing, hline,
    settleText_away, settledIssue]

theorem settle_header : settleNode {} header = header := by
  rw [header]
  simp only [settleNode, settleNodes, tagFollows]
  rw [settleText_within_line _ (by decide)]

theorem settle_footer : settleNode {} footer = footer := by
  rw [footer]
  simp only [settleNode, settleNodes, tagFollows]
  rw [settleText_within_line _ (by decide)]

/-- At its tags the template loses the line breaks behind them, and nothing else. -/
theorem settle_migration :
    settleNodes {} ⟨false, true⟩ false migration =
      [header, .text task] ++ sourceFile .asIs ++
        [.text beforeIssues, .forEach "incident" ["incidents"] settledIssue, .text instructions,
         footer] := by
  have hheader := settle_header
  have hfooter := settle_footer
  have htask : settleText {} ⟨true, false⟩ false migrationTask = task := by
    rw [migrationTask_eq, settleText_after_tag]
  have hissues : settleText {} ⟨false, false⟩ true beforeIssues = beforeIssues :=
    settleText_before_tag (endsLine_lines rfl) false
  have hanswer : settleText {} ⟨true, false⟩ true answerFormat = instructions := by
    rw [answerFormat_eq, settleText_between_tags endsLine_instructions]
  -- the two outer parts are opened to see that they are tags, and have to be recognised opened
  rw [header] at hheader
  rw [footer] at hfooter
  simp only [migration, migrationWith, sourceFile, header, footer, List.cons_append, List.nil_append,
    settleNodes, hheader, hfooter, tagFollows, isTag, settleText_away, htask, hissues, hanswer]
  simp only [settleNode, settle_issue]

/-! ## Incidents -/

/-- What a prompt says of an incident. -/
structure Issue where
  message : String
  line : Int
  /-- How a similar incident was solved, if that is known. -/
  solution : Option String
deriving DecidableEq

namespace Issue

/-- The value has the message and the line of the incident, and its solution if there is one. -/
structure DescribedBy (issue : Issue) (v : Json) : Prop where
  message : v.get? "message" = some (.str issue.message)
  line : v.get? "line_number" = some (.int issue.line)
  solution : v.get? "solution_str" = issue.solution.map .str

/-- The block of a prompt for an incident. -/
def block (issue : Issue) (number : Nat) : String :=
  String.join
    ["### incident ", Decimal.int number,
     "\nincident to fix: \"", issue.message,
     "\"\nLine number: ", Decimal.int issue.line, "\n",
     issue.solution.elim "" fun solution => solution ++ "\n"]

theorem DescribedBy.renders_solution {issue : Issue} {v : Json} (h : issue.DescribedBy v)
    {round : Fields} (hround : round.get? "incident" = some v) :
    renderNode {} round
        (.whenDefined ["incident", "solution_str"]
          [.text "", .value ["incident", "solution_str"] .asIs, .text "\n"]) =
      .ok (issue.solution.elim "" fun solution => solution ++ "\n") := by
  have hpart := h.solution
  rw [renderNode, lookup_member hround, member]
  cases hsolution : issue.solution with
  | none =>
    rw [hsolution, Option.map_none] at hpart
    rw [hpart]
    rfl
  | some solution =>
    rw [hsolution, Option.map_some] at hpart
    have hvalue := valueAt_member hround hpart
    rw [hpart]
    show renderNodes {} round _ = _
    rw [renderNodes_cons_of_ok (renderNode_text _),
      renderNodes_cons_of_ok (renderNode_value_of_ok hvalue .asIs),
      renderNodes_cons_of_ok (renderNode_text _), renderNodes]
    simp [Except.map, insertion, Json.display]

/-- One round of the template gives the block of the incident that the round is for. -/
theorem DescribedBy.renders_block {issue : Issue} {v : Json} (h : issue.DescribedBy v)
    (values : Fields) (number : Nat) :
    renderNodes {} (roundValues values "incident" (v, number)) settledIssue =
      .ok (issue.block number) := by
  have hround := get?_roundValues (show "incident" ≠ "loop" by decide) values (v, number)
  have hloop : (roundValues values "incident" (v, number)).get? "loop" =
      some (.obj [("index0", .int number)]) := by
    rw [roundValues, Fields.get?_set, if_pos rfl]
  have hnumber := valueAt_member hloop (show Json.get? _ "index0" = _ from rfl)
  have hmessage := valueAt_member hround h.message
  have hline := valueAt_member hround h.line
  rw [settledIssue, renderNodes_cons_of_ok (renderNode_text _),
    renderNodes_cons_of_ok (renderNode_value_of_ok hnumber .escaped),
    renderNodes_cons_of_ok (renderNode_text _),
    renderNodes_cons_of_ok (renderNode_value_of_ok hmessage .asIs),
    renderNodes_cons_of_ok (renderNode_text _),
    renderNodes_cons_of_ok (renderNode_value_of_ok hline .escaped),
    renderNodes_cons_of_ok (renderNode_text _),
    renderNodes_cons_of_ok (h.renders_solution hround),
    renderNodes_cons_of_ok (renderNode_text _), renderNodes]
  simp [Except.map, block, String.join_cons, insertion, Json.display, Json.shown, escape_int]

/-- The blocks for incidents, numbered from the given one on. -/
def blocks (issues : List Issue) (first : Nat) : List String :=
  (issues.zipIdx first).map fun numbered => numbered.1.block numbered.2

theorem renders_blocks {issues : List Issue} {incidents : List Json}
    (h : List.Forall₂ DescribedBy issues incidents) (values : Fields) (first : Nat) :
    List.Forall₂ (fun item part =>
      renderNodes {} (roundValues values "incident" item) settledIssue = .ok part)
      (incidents.zipIdx first) (blocks issues first) := by
  induction h generalizing first with
  | nil => exact .nil
  | cons hdescribed _ ih => exact .cons (hdescribed.renders_block values first) (ih (first + 1))

end Issue

/-! ## The prompt -/

/-- What stands before a prompt that is marked. -/
def openingMarks : String :=
  "<s>[INST]You are an AI Assistant trained on migrating enterprise JavaEE code to " ++
    "Quarkus.<<SYS>>"

/-- How the characters that have a meaning in markup are written. -/
def entities : List (Char × String) :=
  [('&', "&amp;"), ('<', "&lt;"), ('>', "&gt;"), ('\'', "&#39;"), ('"', "&#34;")]

/-- A text with these characters written so, and all others as they are. -/
def withEntities (s : String) : String :=
  String.join (s.toList.map fun c => (entities.lookup c).getD c.toString)

theorem toList_entity (c : Char) : ((entities.lookup c).getD c.toString).toList = escapeChar c := by
  simp only [entities, List.lookup_cons, List.lookup_nil, escapeChar]
  cases c == '&' <;> cases c == '<' <;> cases c == '>' <;> cases c == '\'' <;> cases c == '"' <;>
    simp

theorem escape_eq_withEntities (s : String) : escape s = withEntities s := by
  rw [← String.toList_inj, escape, withEntities, String.toList_ofList, String.toList_join,
    List.flatMap_map]
  exact List.flatMap_congr fun c _ => (toList_entity c).symm

/-- The prompt for a file and the incidents in it. -/
def migrationText (marks : Bool) (fileName language contents : String) (issues : List Issue) :
    String :=
  String.join
    [if marks then openingMarks else "",
     task, withEntities fileName, "\"\nSource file contents:\n```", withEntities language, "\n",
     contents, "\n```\n\n## Issues\n\n",
     String.join (Issue.blocks issues 0),
     instructions,
     if marks then "[/INST]" else ""]

section Rendered

variable (model : Model) (fileName language contents : String)

theorem renders_header (incidents : List Json) :
    renderNode {} (Service.batchValues model fileName language contents incidents) header =
      .ok (if model.llamaHeader then openingMarks else "") := by
  exact renderNode_whenSet_of_ok (v := .bool model.llamaHeader) rfl (renderNodes_text _)

theorem renders_footer (incidents : List Json) :
    renderNode {} (Service.batchValues model fileName language contents incidents) footer =
      .ok (if model.llamaHeader then "[/INST]" else "") := by
  exact renderNode_whenSet_of_ok (v := .bool model.llamaHeader) rfl (renderNodes_text _)

/-- The file of a prompt: its name and its language are escaped, its contents are not. -/
theorem renders_sourceFile (incidents : List Json) :
    renderNodes {} (Service.batchValues model fileName language contents incidents)
        (sourceFile .asIs) =
      .ok (String.join
        [withEntities fileName, beforeLanguage, withEntities language, "\n", contents]) := by
  let values := Service.batchValues model fileName language contents incidents
  have hname : valueAt values ["src_file_name"] = .ok (.str fileName) := rfl
  have hlanguage : valueAt values ["src_file_language"] = .ok (.str language) := rfl
  have hcontents : valueAt values ["src_file_contents"] = .ok (.str contents) := rfl
  rw [sourceFile, renderNodes_cons_of_ok (renderNode_value_of_ok hname .escaped),
    renderNodes_cons_of_ok (renderNode_text _),
    renderNodes_cons_of_ok (renderNode_value_of_ok hlanguage .escaped),
    renderNodes_cons_of_ok (renderNode_text _),
    renderNodes_cons_of_ok (renderNode_value_of_ok hcontents .asIs), renderNodes]
  simp [Except.map, String.join_cons, insertion, Json.display, escape_eq_withEntities]

end Rendered

theorem find_main {templates : Search} {directory : String}
    (h : templates.library = standard directory) (fallback addExtension : Bool) :
    find templates mainName fallback addExtension = .ok migration := by
  have hname : (if addExtension && !Text.endsWith mainName extension then mainName ++ extension
      else mainName) = mainName := by
    rw [show Text.endsWith mainName extension = true by decide]
    simp
  have hfound : templates.library.named? mainName = some migration := by
    rw [h]
    rfl
  rw [find, hname]
  simp only [hfound]
  rfl

/-- The prompt for a file and any incidents, from the main template. Between the name of the file
and the instructions for the answer stand the contents of the file between fences and one block for
each incident, in order and numbered from zero. Markup is written with entities in the name and the
language of the file, and nowhere else. -/
theorem migration_prompt_eq {templates : Search} {directory : String} {model : Model}
    (hlibrary : templates.library = standard directory) (hmain : model.template = .str mainName)
    (fileName language contents : String) {issues : List Issue} {incidents : List Json}
    (hincidents : List.Forall₂ Issue.DescribedBy issues incidents) :
    Service.promptFrom templates model
        (Service.batchValues model fileName language contents incidents) =
      .ok (migrationText model.llamaHeader fileName language contents issues) := by
  have hitems : valueAt (Service.batchValues model fileName language contents incidents)
      ["incidents"] = .ok (.arr incidents) := rfl
  have hblocks := renderNode_forEach_of_forall₂ hitems (Issue.renders_blocks hincidents
    (Service.batchValues model fileName language contents incidents) 0)
  have hlanguage : beforeLanguage = "\"\nSource file contents:\n```" := by decide
  have hissues : beforeIssues = "\n```\n\n## Issues\n\n" := by decide
  have hprompt : Service.promptFrom templates model
      (Service.batchValues model fileName language contents incidents) =
      render {} migration (Service.batchValues model fileName language contents incidents) := by
    rw [Service.promptFrom, hmain]
    show (find templates mainName true true >>= fun template => render {} template _) = _
    rw [find_main hlibrary]
    rfl
  rw [hprompt, render, settle_migration, List.append_assoc, List.cons_append, List.cons_append,
    List.nil_append, renderNodes_cons_of_ok (renders_header model fileName language contents _),
    renderNodes_cons_of_ok (renderNode_text _),
    renderNodes_append_of_ok (renders_sourceFile model fileName language contents _),
    renderNodes_cons_of_ok (renderNode_text _), renderNodes_cons_of_ok hblocks,
    renderNodes_cons_of_ok (renderNode_text _),
    renderNodes_cons_of_ok (renders_footer model fileName language contents _), renderNodes]
  simp [Except.map, migrationText, String.join_cons, String.append_assoc, hlanguage, hissues]

/-- A model whose prompts are marked. -/
def markedModel : Model where
  interface := Model.replayProvider
  args := []
  provider := Model.replayProvider
  id := .str Model.replayId
  template := .str mainName
  llamaHeader := true
  retries := 1
  retryDelay := Binary64.zero

/-- Incidents whose texts look like markup, and like the prompt itself. -/
def lookalikes : List Issue :=
  [⟨"use <T> & \"U\"", 3, none⟩, ⟨"none", -1, some "### incident 1\n<b>"⟩]

/-- The same incidents as they are given to the template, with other entries among theirs. -/
def lookalikeValues : List Json :=
  [.obj [("uri", .str "file:///A.java"), ("message", .str "use <T> & \"U\""), ("line_number", .int 3)],
   .obj [("line_number", .int (-1)), ("message", .str "none"),
     ("solution_str", .str "### incident 1\n<b>")]]

/-- A file that looks like a template, with markup in its name and its language, and incidents that
look like blocks of the prompt. -/
theorem migration_prompt_eq_lookalikes :
    Service.promptFrom ⟨standard "/templates", [], "/"⟩ markedModel
        (Service.batchValues markedModel "a<b>&'c'.java" "\"java\"" "\x7b\x7b x \x7d\x7d\n```\n<y>"
          lookalikeValues) =
      .ok (migrationText true "a<b>&'c'.java" "\"java\"" "\x7b\x7b x \x7d\x7d\n```\n<y>" lookalikes) ∧
    withEntities "a<b>&'c'.java" = "a&lt;b&gt;&amp;&#39;c&#39;.java" ∧
    withEntities "\"java\"" = "&#34;java&#34;" ∧
    Issue.blocks lookalikes 0 =
      ["### incident 0\nincident to fix: \"use <T> & \"U\"\"\nLine number: 3\n",
       "### incident 1\nincident to fix: \"none\"\nLine number: -1\n### incident 1\n<b>\n"] :=
  ⟨migration_prompt_eq rfl rfl _ _ _ (.cons ⟨rfl, rfl, rfl⟩ (.cons ⟨rfl, rfl, rfl⟩ .nil)), by decide,
    by decide, by decide⟩

end Remedy.Prompt
