import Remedy.Proofs.Files.Tree
import Remedy.Proofs.Number.Decimal
import Remedy.Proofs.Trace.Files

/-!
# Traces below an empty directory

A trace below a directory that was empty can always be written. The directories of the trace are
numbered, and none of its files has a number for a name, so that no file stands where a directory is
wanted and no directory where a file is.

Main results:

* `record_holds`: writing a file of the trace succeeds and changes that file alone.
* `records_of_placed`: the steps of tracing succeed and leave their files.
-/

namespace Remedy

/-- A directory with nothing in it. -/
structure FileTree.IsEmptyDir (t : FileTree) (dir : Names) : Prop where
  isDir : t.isDir dir = true
  noDir : ∀ q, q ≠ [] → t.isDir (dir ++ q) = false
  noFile : ∀ q, q ≠ [] → t.file? (dir ++ q) = none

namespace Trace

open Remedy.Action

/-! ## Numbers as names -/

/-- A name as the directories of batches and attempts have it. -/
def IsNumeral (name : String) : Prop :=
  name ≠ "" ∧ ∀ c ∈ name.toList, c.isDigit = true ∨ c = '-'

instance (name : String) : Decidable (IsNumeral name) :=
  @instDecidableAnd _ _ _ (List.decidableBAll _ _)

theorem isNumeral_int (n : Int) : IsNumeral (Decimal.int n) := by
  refine ⟨?_, fun c hc => ?_⟩
  · intro hempty
    have hchars : Decimal.intChars n = [] := String.ofList_injective hempty
    cases n with
    | ofNat n => exact Nat.toDigits_ne_nil hchars
    | negSucc n => cases hchars
  · rw [Decimal.int, String.toList_ofList] at hc
    exact Decimal.digit_or_minus_of_mem_intChars hc

theorem IsNumeral.isName {name : String} (h : IsNumeral name) : Path.IsName name := by
  have hpoint : '.' ∉ name.toList := fun hmem => by
    rcases h.2 _ hmem with hdigit | hminus
    · cases hdigit
    · cases hminus
  refine ⟨⟨h.1, ?_, fun hmem => ?_⟩, ?_⟩
  · rintro rfl
    exact hpoint (by decide)
  · rcases h.2 _ hmem with hdigit | hminus
    · cases hdigit
    · cases hminus
  · rintro rfl
    exact hpoint (by decide)

/-- The names under which a file of a trace stands: numbered directories, and a name that is no
number. -/
def IsFileName (names : Names) : Prop :=
  ∃ numbers name, names = numbers ++ [name] ∧ (∀ d ∈ numbers, IsNumeral d) ∧ ¬ IsNumeral name

/-- Numbered directories are not taken for files. -/
theorem not_isFileName_of_numerals {names : Names} (h : ∀ d ∈ names, IsNumeral d) :
    ¬ IsFileName names := by
  rintro ⟨numbers, name, rfl, -, hname⟩
  exact hname (h name (by simp))

/-! ## Where a trace is -/

/-- A trace that is put below an empty directory, under some names. -/
structure Placed (t : Trace) (workingDirectory : String) (files : FileTree) (dir rest : Names) :
    Prop where
  enabled : t.enabled = true
  named : t.directory ≠ ""
  parts : ∃ ps, FileTree.parts (Path.join workingDirectory t.directory) = ps ++ rest ∧
    files.follow [] ps = .ok dir
  nonempty : rest ≠ []
  down : ∀ n ∈ rest, n ≠ ".."
  empty : files.IsEmptyDir dir

/-- A host on which the trace holds some files, and all else is as it was. -/
structure Holds (workingDirectory : String) (files : FileTree) (dir rest : Names)
    (contents : Names → Option String) (h : Host) : Prop where
  workingDirectory : h.workingDirectory = workingDirectory
  file : ∀ q, h.files.file? (dir ++ rest ++ q) = contents q
  other : ∀ p, ¬ dir ++ rest <+: p → h.files.file? p = files.file? p
  dirs : ∀ p, files.isDir p = true → h.files.isDir p = true
  /-- Only the directories of the trace are new. -/
  newDirs : ∀ p, h.files.isDir p = true → files.isDir p = true ∨
    ∃ numbers q, (∀ d ∈ numbers, IsNumeral d) ∧ q <+: rest ++ numbers ∧ p = dir ++ q
  names : ∀ q, (contents q).isSome = true → IsFileName q

section Placed

variable {t : Trace} {workingDirectory : String} {files : FileTree} {dir rest : Names}

theorem holds_nothing {h : Host} (hempty : h.files.IsEmptyDir dir) (hrest : rest ≠ []) :
    Holds h.workingDirectory h.files dir rest (fun _ => none) h where
  workingDirectory := rfl
  file q := by
    rw [List.append_assoc]
    exact hempty.noFile _ (List.append_ne_nil_of_left_ne_nil hrest _)
  other _ _ := rfl
  dirs _ hp := hp
  newDirs _ hp := Or.inl hp
  names _ hq := by cases hq

namespace Holds

variable {contents : Names → Option String} {h : Host}

/-- No file stands in the way of a directory. -/
theorem file?_eq_none (hh : Holds workingDirectory files dir rest contents h)
    (hempty : files.IsEmptyDir dir) {numbers q : Names} (hnumbers : ∀ d ∈ numbers, IsNumeral d)
    (hq : q <+: rest ++ numbers) (hne : q ≠ []) : h.files.file? (dir ++ q) = none := by
  by_cases hbelow : rest <+: q
  · -- from the directory of the trace on, there are only numbers
    obtain ⟨inner, rfl⟩ := hbelow
    have hinner : inner <+: numbers := (List.prefix_append_right_inj rest).mp hq
    rw [← List.append_assoc, hh.file, ← Option.not_isSome_iff_eq_none]
    intro hsome
    exact not_isFileName_of_numerals (fun d hd => hnumbers d (hinner.subset hd)) (hh.names _ hsome)
  · rw [hh.other _ fun hprefix => hbelow ((List.prefix_append_right_inj dir).mp hprefix)]
    exact hempty.noFile q hne

/-- No directory stands in the way of a file. -/
theorem isDir_eq_false (hh : Holds workingDirectory files dir rest contents h)
    (hempty : files.IsEmptyDir dir) {numbers : Names} {name : String} (hname : ¬ IsNumeral name) :
    h.files.isDir (dir ++ (rest ++ numbers ++ [name])) = false := by
  rw [Bool.eq_false_iff]
  intro hdir
  rcases hh.newDirs _ hdir with hold | ⟨others, q, hothers, hq, heq⟩
  · rw [hempty.noDir _ (by simp)] at hold
    cases hold
  · rw [← List.append_cancel_left heq, List.append_assoc] at hq
    have hinner := (List.prefix_append_right_inj rest).mp hq
    exact hname (hothers name (hinner.subset (by simp)))

end Holds

/-- **Writing a file of the trace.** -/
theorem record_holds (hplaced : t.Placed workingDirectory files dir rest)
    {contents : Names → Option String} {h : Host}
    (hh : Holds workingDirectory files dir rest contents h) {numbers : Names} {name : String}
    (hnumbers : ∀ d ∈ numbers, IsNumeral d) (hname : Path.IsName name) (hnot : ¬ IsNumeral name)
    (text : String) :
    ∃ h', Holds workingDirectory files dir rest
        (Function.update contents (numbers ++ [name]) (some text)) h' ∧
      (t.record (numbers ++ [name]) text).exec h = (.ok (), h') := by
  obtain ⟨ps, hparts, hfollow⟩ := hplaced.parts
  obtain rfl := hh.workingDirectory
  have hnumberPart : ∀ d ∈ numbers, Path.IsPart d := fun d hd => (hnumbers d hd).isName.1
  have hdown : ∀ n ∈ rest ++ numbers, n ≠ ".." := fun n hn =>
    (List.mem_append.mp hn).elim (hplaced.down n) fun hn => (hnumbers n hn).isName.2
  -- the directory of the file
  have hfront : Path.joinAll t.directory numbers ≠ "" :=
    Path.joinAll_ne hplaced.named fun d hd => (hnumbers d hd).1
  have hfrontParts : FileTree.parts (Path.join h.workingDirectory (Path.joinAll t.directory numbers)) =
      ps ++ (rest ++ numbers) := by
    rw [FileTree.parts_join_names hnumberPart, hparts, List.append_assoc]
  have hpath : Path.joinAll t.directory (numbers ++ [name]) =
      Path.join (Path.joinAll t.directory numbers) name := List.foldl_append
  obtain ⟨made, hexec, hfile, hdirs⟩ := Host.writeWithDirs_below hfront hname hfrontParts
    (List.append_ne_nil_of_left_ne_nil hplaced.nonempty _) hdown
    (FileTree.follow_mono hh.dirs hfollow) (hh.dirs _ hplaced.empty.isDir)
    (fun q hq hne => hh.file?_eq_none hplaced.empty hnumbers hq hne)
    (hh.isDir_eq_false hplaced.empty hnot) text
  refine ⟨{ h with files := made }, ⟨rfl, ?_, ?_, ?_, ?_, ?_⟩, ?_⟩
  · -- below the trace, the names of a file are what follows the directory of the trace
    intro q
    show made.file? (dir ++ rest ++ q) = _
    rw [hfile, hh.file, Function.update_apply, List.append_assoc, List.append_assoc]
    simp only [List.append_cancel_left_eq]
  · intro p hp
    show made.file? p = _
    rw [hfile, if_neg, hh.other p hp]
    rintro rfl
    exact hp (by simp)
  · exact fun p hp => (hdirs p).mpr (Or.inl (hh.dirs p hp))
  · -- a directory was there, or it is on the way to the file
    intro p hp
    rcases (hdirs p).mp hp with hold | ⟨q, hq, rfl⟩
    · exact hh.newDirs p hold
    · exact Or.inr ⟨numbers, q, hnumbers, hq, rfl⟩
  · intro q hq
    by_cases hsame : q = numbers ++ [name]
    · exact ⟨numbers, name, hsame, hnumbers, hnot⟩
    · rw [Function.update_of_ne hsame] at hq
      exact hh.names q hq
  · rw [record, hplaced.enabled, hpath]
    exact hexec

theorem isNumeral_of_mem_numberPart {n : Int} {d : String} (h : d ∈ numberPart n) :
    IsNumeral d := by
  rw [numberPart] at h
  split at h
  · rw [List.mem_singleton.mp h]
    exact isNumeral_int n
  · cases h

/-- Writing a file whose content can be made, first without the content. -/
theorem recordOutcome_holds (hplaced : t.Placed workingDirectory files dir rest)
    {contents : Names → Option String} {h : Host}
    (hh : Holds workingDirectory files dir rest contents h) {numbers : Names} {name : String}
    (hnumbers : ∀ d ∈ numbers, IsNumeral d) (hname : Path.IsName name) (hnot : ¬ IsNumeral name)
    (text : String) :
    ∃ h', Holds workingDirectory files dir rest
        (Function.update contents (numbers ++ [name]) (some text)) h' ∧
      (t.recordOutcome (numbers ++ [name]) (.ok text)).exec h = (.ok (), h') := by
  obtain ⟨h₁, hh₁, hexec₁⟩ := record_holds hplaced hh hnumbers hname hnot ""
  obtain ⟨h₂, hh₂, hexec₂⟩ := record_holds hplaced hh₁ hnumbers hname hnot text
  rw [Function.update_idem] at hh₂
  refine ⟨h₂, hh₂, ?_⟩
  rw [recordOutcome, hplaced.enabled]
  show (t.record (numbers ++ [name]) "" >>= fun _ => _).exec h = _
  rw [exec_bind_of_ok hexec₁]
  exact hexec₂

/-- **A trace below an empty directory can be written.** -/
theorem records_of_placed (hplaced : t.Placed workingDirectory files dir rest) :
    t.Records (Holds workingDirectory files dir rest) where
  prompt := by
    intro contents h hh batch text values hvalues
    have hnumbers : ∀ d ∈ [Decimal.int batch], IsNumeral d := by simp [isNumeral_int]
    obtain ⟨h₁, hh₁, hexec₁⟩ :=
      record_holds hplaced hh hnumbers (by decide : Path.IsName "prompt") (by decide) text
    obtain ⟨h₂, hh₂, hexec₂⟩ :=
      recordOutcome_holds hplaced hh₁ hnumbers (by decide : Path.IsName "prompt_vars.json") (by decide)
        (Json.render Json.indented (.obj (values.erase modelValue)))
    refine ⟨h₂, hh₂, ?_⟩
    rw [recordPrompt, valuesText, if_pos hvalues]
    exact (exec_bind_of_ok hexec₁ _).trans hexec₂
  answer := by
    intro contents h hh batch attempt text
    have hnumbers : ∀ d ∈ [Decimal.int batch, Decimal.int attempt], IsNumeral d := by
      simp [isNumeral_int]
    exact record_holds hplaced hh hnumbers (by decide) (by decide) _
  failure := by
    intro contents h hh batch attempt text origin
    have hnumbers : ∀ d ∈ numberPart batch ++ numberPart attempt, IsNumeral d := fun d hd =>
      (List.mem_append.mp hd).elim isNumeral_of_mem_numberPart isNumeral_of_mem_numberPart
    obtain ⟨h₁, hh₁, hexec₁⟩ :=
      record_holds hplaced hh hnumbers (by decide : Path.IsName "exception") (by decide) text
    obtain ⟨h₂, hh₂, hexec₂⟩ :=
      record_holds hplaced hh₁ hnumbers (by decide : Path.IsName "traceback") (by decide) origin
    exact ⟨h₂, hh₂, (exec_bind_of_ok hexec₁ _).trans hexec₂⟩
  sleep := by
    intro contents h hh seconds
    exact ⟨hh.workingDirectory, hh.file, hh.other, hh.dirs, hh.newDirs, hh.names⟩

end Placed

end Trace
end Remedy
