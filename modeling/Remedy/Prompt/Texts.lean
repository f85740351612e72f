import Remedy.Template.Basic

/-!
# The templates of the prompts

The prompt that asks for the migration of a file, the same prompt as the benchmarks use it, the
prompt that asks for a summary of a solved example, and the texts that show a solved example.
-/

namespace Remedy.Prompt

open Template

/-- The name of the flag that asks for the marks of one family of models. -/
def headerFlag : List String := ["model_provider", "llama_header"]

/-- What stands before the prompt if the flag is set. -/
def header : TemplateNode :=
  .whenSet headerFlag
    [.text ("<s>[INST]You are an AI Assistant trained on migrating enterprise JavaEE code to " ++
      "Quarkus.<<SYS>>")]

/-- What stands after the prompt if the flag is set. -/
def footer : TemplateNode :=
  .whenSet headerFlag [.text "[/INST]"]

/-- What a migration is asked to keep in mind. -/
def migrationTask : String := lines
  ["",
   "I will give you a JavaEE file for which I want to take one step towards migrating to Quarkus.",
   "",
   "I will provide you with static source code analysis information highlighting an issue which " ++
    "needs to be addressed.",
   "",
   "I will also provide you with an example of how a similar issue was solved in the past via a " ++
    "solved example.",
   "",
   "You can refer to the solved example for a pattern of how to update the input Java EE file to " ++
    "Quarkus.",
   "",
   "Fix only the problem described. Other problems will be solved in subsequent steps so it is " ++
    "unnecessary to handle them now.",
   "",
   "Before attempting to migrate the code to Quarkus reason through what changes are required " ++
    "and why.",
   "",
   "Pay attention to changes you make and impacts to external dependencies in the pom.xml as " ++
    "well as changes to imports we need to consider.",
   "",
   "Remember when updating or adding annotations that the class must be imported.",
   "",
   "As you make changes that impact the pom.xml or imports, be sure you explain what needs to be " ++
    "updated.",
   "",
   "After you have shared your step by step thinking, provide a full output of the updated file.",
   "",
   "# Input information",
   "",
   "## Input File",
   "",
   "File name: \""]

/-- What stands between the name of a file and its language. -/
def beforeLanguage : String := lines ["\"", "Source file contents:", "```"]

/-- What stands between a file and the issues in it. -/
def beforeIssues : String := lines ["", "```", "", "## Issues", "", ""]

/-- How the reasoning is to be laid out. -/
def reasoningFormat : List String :=
  ["# Output Instructions",
   "Structure your output in Markdown format such as:",
   "",
   "## Reasoning",
   "Write the step by step reasoning in this markdown section. If you are unsure of a step or " ++
    "reasoning, clearly state you are unsure and why.",
   ""]

/-- How anything else is to be laid out. -/
def additionalFormat : List String :=
  ["## Additional Information (optional)",
   "",
   "If you have any additional details or steps that need to be performed, put it here.",
   "",
   ""]

/-- How the answer to a migration is to be laid out. -/
def answerFormat : String := lines
  (["", ""] ++ reasoningFormat ++
   ["## Updated File",
    "```java",
    "// Write the updated file for Quarkus in this section. If the file should be removed, make " ++
     "the content of the updated file a comment explaining it should be removed.",
    "```",
    ""] ++ additionalFormat)

/-- The file of a prompt: its name, its language and its contents. -/
def sourceFile (contents : Insertion) : Template :=
  [.value ["src_file_name"] .escaped,
   .text beforeLanguage,
   .value ["src_file_language"] .escaped,
   .text "\n",
   .value ["src_file_contents"] contents]

/-- One issue: its number, its message and its line, and then what is known of a solution. -/
def issue (message : TemplateNode) (solution : TemplateNode) : Template :=
  [.text "\n### incident ",
   .value ["loop", "index0"] .escaped,
   .text "\nincident to fix: \"",
   message,
   .text "\"\nLine number: ",
   .value ["incident", "line_number"] .escaped,
   .text "\n",
   solution,
   .text "\n"]

/-- A prompt that asks for a migration. -/
def migrationWith (contents : Insertion) (anIssue : Template) : Template :=
  [header, .text migrationTask] ++ sourceFile contents ++
    [.text beforeIssues,
     .forEach "incident" ["incidents"] anIssue,
     .text answerFormat,
     footer]

/-- The prompt that asks for the migration of a file. The contents, the messages and the solved
examples stand as they are. -/
def migration : Template :=
  migrationWith .asIs
    (issue (.value ["incident", "message"] .asIs)
      (.whenDefined ["incident", "solution_str"]
        [.text "\n", .value ["incident", "solution_str"] .asIs, .text "\n"]))

/-- The prompt as the benchmarks use it, with everything escaped. -/
def benchmark : Template :=
  migrationWith .escaped
    (issue (.value ["incident", "analysis_message"] .escaped)
      (.whenDefined ["incident", "solved_example_diff"]
        [.text "\nSolved example:\n```diff\n",
         .value ["incident", "solved_example_diff"] .escaped,
         .text "\n```",
         .comment,
         .text "\n"]))

/-- The prompt that asks for a summary of a solved example. -/
def summary : Template :=
  [header,
   .text (lines
    ["",
     "",
     "I will give you an example of a JavaEE file that has been migrated to Quarkus.",
     "",
     "You will need to reason through the changes required to update the JavaEE file to Quarkus.",
     "",
     "You will then provide an step-by-step explanation of the changes required so that someone " ++
      "could recreate it in a similar situtaion.",
     "",
     "# Input information",
     "",
     "## Input File",
     "",
     "File name: \""])] ++
   sourceFile .escaped ++
   [.text (lines ["", "```", "", "## Incident", "", "Incident that was fixed: \""]),
    .value ["incident", "analysis_message"] .escaped,
    .text "\"\nLine number: ",
    .value ["incident", "line_number"] .escaped,
    .text (lines ["", "", "## Solution", "", "File name: \""]),
    .value ["sln_file_name"] .escaped,
    .text beforeLanguage,
    .value ["sln_file_language"] .escaped,
    .text "\n",
    .value ["sln_file_contents"] .escaped,
    .text (lines (["", "```", ""] ++ reasoningFormat ++ additionalFormat)),
    footer]

/-- A solved example as its code before and after. -/
def beforeAndAfter : Template :=
  [.text "Solved example before changes:\n```\n",
   .value ["solution", "original_code"] .escaped,
   .text "\n```\n\nSolved example after changes:\n```\n",
   .value ["solution", "updated_code"] .escaped,
   .text "\n```"]

/-- A solved example as a diff. -/
def diffOnly : Template :=
  [.text "Solved example diff:\n```diff\n",
   .value ["solution", "file_diff"] .escaped]

/-- A solved example as a summary. -/
def summaryOnly : Template :=
  [.text "Summary of changes for solved example:\n\n",
   .value ["solution", "llm_summary"] .escaped]

/-- A plain listing of an issue and a solved example, with the places to fill in left as they are. -/
def listingText : String := lines
  ["Issue: \x7bdescription\x7d",
   "File: \x7bcurrent_issue_filename\x7d",
   "Msg: \x7bcurrent_issue_message\x7d",
   "Code: \x7bcurrent_issue_original_code\x7d",
   "Solved: \x7bsolved_example_filename\x7d",
   "Diff: \x7bsolved_example_diff\x7d"]

end Remedy.Prompt
