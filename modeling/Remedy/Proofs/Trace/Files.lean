import Remedy.Proofs.Action
import Remedy.Trace
import Mathlib.Data.List.Induction
import Mathlib.Logic.Function.Basic

/-!
# The files of a trace

Which files a trace is made of: below the directory of the trace, each prompt and its values in the
directory of their batch, each answer and each failure in the directory of their attempt. Files that
are written one after the other leave at each place what was written there last.

Main results:

* `written_append`: files are written in two steps.
* `mem_numbered_iff`: the files of items that are numbered.
* `written_eq_some_iff`: if each place is written once, all that was written is there and nothing else.
-/

namespace Remedy.Trace

/-- What is at each place after some files were written there, one after the other. -/
def written (before : Names → Option String) (files : List (Names × String)) :
    Names → Option String :=
  files.foldl (fun contents file => Function.update contents file.1 (some file.2)) before

theorem written_append (before : Names → Option String) (files later : List (Names × String)) :
    written before (files ++ later) = written (written before files) later :=
  List.foldl_append

theorem written_cons (before : Names → Option String) (file : Names × String)
    (files : List (Names × String)) :
    written before (file :: files) =
      written (Function.update before file.1 (some file.2)) files :=
  rfl

/-- What is at a place was written there, or was there before. -/
theorem mem_of_written {before : Names → Option String} {files : List (Names × String)}
    {names : Names} {text : String} (h : written before files names = some text) :
    (names, text) ∈ files ∨ before names = some text := by
  induction files generalizing before with
  | nil => exact Or.inr h
  | cons file files ih =>
    rw [written_cons] at h
    rcases ih h with hlater | hbefore
    · exact Or.inl (List.mem_cons_of_mem _ hlater)
    · by_cases hnames : names = file.1
      · rw [hnames, Function.update_self] at hbefore
        rw [hnames, ← Option.some.inj hbefore]
        exact Or.inl List.mem_cons_self
      · rw [Function.update_of_ne hnames] at hbefore
        exact Or.inr hbefore

/-- What was written somewhere is there, unless something else was written there later. -/
theorem exists_of_mem (before : Names → Option String) {files : List (Names × String)}
    {names : Names} {text : String} (h : (names, text) ∈ files) :
    ∃ last, (names, last) ∈ files ∧ written before files names = some last := by
  -- from the end: the last file that was written there is the one that counts
  induction files using List.reverseRecOn with
  | nil => cases h
  | append_singleton files file ih =>
    rw [written_append, written_cons]
    by_cases hnames : names = file.1
    · refine ⟨file.2, by simp [hnames], ?_⟩
      rw [hnames]
      exact Function.update_self ..
    · have hearlier : (names, text) ∈ files := by
        rcases List.mem_append.mp h with hmem | hmem
        · exact hmem
        · exact absurd (congrArg Prod.fst (List.mem_singleton.mp hmem)) hnames
      obtain ⟨last, hmem, hlast⟩ := ih hearlier
      refine ⟨last, List.mem_append_left _ hmem, ?_⟩
      rw [← hlast]
      exact Function.update_of_ne hnames ..

/-- When no place is written differently a second time, a place has what was written there. -/
theorem written_eq_some_iff {files : List (Names × String)}
    (h : ∀ names a b, (names, a) ∈ files → (names, b) ∈ files → a = b) {names : Names}
    {text : String} : written (fun _ => none) files names = some text ↔ (names, text) ∈ files := by
  constructor
  · intro hwritten
    rcases mem_of_written hwritten with hmem | hbefore
    · exact hmem
    · cases hbefore
  · intro hmem
    obtain ⟨last, hlast, hwritten⟩ := exists_of_mem (fun _ => none) hmem
    rw [hwritten, h names text last hmem hlast]

/-! ## What is written -/

/-- The files that a prompt and its values make. -/
def promptFiles (batch : Int) (prompt : String) (values : Fields) : List (Names × String) :=
  [([Decimal.int batch, "prompt"], prompt),
   ([Decimal.int batch, "prompt_vars.json"],
    Json.render Json.indented (.obj (values.erase modelValue)))]

/-- The files that what the model says makes: an answer is written down as it is shown, a failure of
the model is not an answer. -/
def answerFiles (batch attempt : Int) : Outcome String → List (Names × String)
  | .ok shown => [([Decimal.int batch, Decimal.int attempt, "llm_result"], shown)]
  | .error _ => []

/-- The files that a failure makes. -/
def failureFiles (batch attempt : Int) (failure origin : String) : List (Names × String) :=
  [(numberPart batch ++ numberPart attempt ++ ["exception"], failure),
   (numberPart batch ++ numberPart attempt ++ ["traceback"], origin)]

/-- The files for the items of a list, which are numbered from a given number. -/
def numbered {α : Type} (files : Int → α → List (Names × String)) :
    Int → List α → List (Names × String)
  | _, [] => []
  | n, x :: rest => files n x ++ numbered files (n + 1) rest

theorem mem_numbered_iff {α : Type} {files : Int → α → List (Names × String)} {n : Int}
    {items : List α} {file : Names × String} :
    file ∈ numbered files n items ↔
      ∃ (i : Nat) (x : α), items[i]? = some x ∧ file ∈ files (n + i) x := by
  induction items generalizing n with
  | nil => simp [numbered]
  | cons first rest ih =>
    rw [numbered, List.mem_append, ih]
    have hnext : ∀ i : Nat, n + 1 + (i : Int) = n + ((i + 1 : Nat) : Int) := fun i => by omega
    have hhere : n + ((0 : Nat) : Int) = n := by omega
    constructor
    · rintro (hfirst | ⟨i, x, hx, hfile⟩)
      · exact ⟨0, first, rfl, hhere.symm ▸ hfirst⟩
      · exact ⟨i + 1, x, hx, hnext i ▸ hfile⟩
    · rintro ⟨i, x, hx, hfile⟩
      cases i with
      | zero =>
        cases hx
        exact Or.inl (hhere ▸ hfile)
      | succ i => exact Or.inr ⟨i, x, hx, hnext i ▸ hfile⟩

/-- A trace can be written on hosts that are of a kind for what is in the trace: each step of writing
succeeds and leaves a host of the kind for the trace with the files of the step, and waiting changes
nothing. -/
structure Records (t : Trace) (P : (Names → Option String) → Host → Prop) : Prop where
  prompt : ∀ {contents : Names → Option String} {h : Host}, P contents h →
    ∀ (batch : Int) (text : String) (values : Fields), values.has modelValue = true →
    ∃ h', P (written contents (promptFiles batch text values)) h' ∧
      (t.recordPrompt batch text values).exec h = (.ok (), h')
  answer : ∀ {contents : Names → Option String} {h : Host}, P contents h →
    ∀ (batch attempt : Int) (text : String),
    ∃ h', P (written contents (answerFiles batch attempt (.ok text))) h' ∧
      (t.recordAnswer batch attempt text).exec h = (.ok (), h')
  failure : ∀ {contents : Names → Option String} {h : Host}, P contents h →
    ∀ (batch attempt : Int) (text origin : String),
    ∃ h', P (written contents (failureFiles batch attempt text origin)) h' ∧
      (t.recordFailure batch attempt text origin).exec h = (.ok (), h')
  sleep : ∀ {contents : Names → Option String} {h : Host}, P contents h → ∀ seconds,
    P contents { h with slept := seconds :: h.slept }

end Remedy.Trace
