import Remedy.Host.Basic
import Remedy.Proofs.Action
import Remedy.Proofs.Files.Paths

/-!
# Changing a tree of files

What making directories and writing a file do to a tree. A path leads to the place that its parts name
when each double point takes the last name away; that every place on the way is a directory decides
only whether the path can be followed. Below a directory that can be reached, a file can be written
under any names as long as no file stands in the way.

Main results:

* `resolve_of_follow`: where a path leads if it can be followed.
* `place_congr`: what is in files does not change where paths lead.
* `exists_of_write`: writing changes the file at the place of its path and nothing else.
* `makeDirs_below`: the directories that are made below a directory.
* `write_below`: a file is written below a directory.
* `writeWithDirs_below`: the same on a host, with the directories on the way.
-/

namespace Remedy.FileTree

open Text

/-! ## Following paths -/

/-- Where parts of a path lead from a place. -/
def resolve (here : Names) (ps : List String) : Names :=
  ps.foldl (fun here part => if part == ".." then here.dropLast else here ++ [part]) here

theorem resolve_append (here : Names) (ps qs : List String) :
    resolve here (ps ++ qs) = resolve (resolve here ps) qs :=
  List.foldl_append

theorem resolve_names {ns : List String} (h : ∀ n ∈ ns, n ≠ "..") (here : Names) :
    resolve here ns = here ++ ns := by
  induction ns generalizing here with
  | nil => rw [List.append_nil]; rfl
  | cons n ns ih =>
    have hn : (n == "..") = false := beq_eq_false_iff_ne.mpr (h n List.mem_cons_self)
    show resolve (if n == ".." then here.dropLast else here ++ [n]) ns = _
    rw [hn, if_neg Bool.false_ne_true, ih fun m hm => h m (List.mem_cons_of_mem _ hm),
      List.append_assoc, List.singleton_append]

variable {t t' : FileTree}

theorem follow_cons_of_isDir {here : Names} (h : t.isDir here = true) (part : String)
    (rest : List String) :
    t.follow here (part :: rest) =
      t.follow (if part == ".." then here.dropLast else here ++ [part]) rest := by
  rw [follow, if_pos h]
  split
  · rfl
  · rfl

theorem isDir_of_follow_cons {here there : Names} {part : String} {rest : List String}
    (h : t.follow here (part :: rest) = .ok there) : t.isDir here = true := by
  by_cases hdir : t.isDir here = true
  · exact hdir
  · rw [follow, if_neg hdir] at h
    split at h
    · cases h
    · cases h

theorem resolve_of_follow {here there : Names} {ps : List String}
    (h : t.follow here ps = .ok there) : there = resolve here ps := by
  induction ps generalizing here with
  | nil =>
    cases h
    rfl
  | cons part rest ih =>
    rw [follow_cons_of_isDir (isDir_of_follow_cons h)] at h
    exact ih h

theorem follow_append {here between : Names} {ps : List String}
    (h : t.follow here ps = .ok between) (qs : List String) :
    t.follow here (ps ++ qs) = t.follow between qs := by
  induction ps generalizing here with
  | nil =>
    cases h
    rfl
  | cons part rest ih =>
    have hdir := isDir_of_follow_cons h
    rw [follow_cons_of_isDir hdir] at h
    rw [List.cons_append, follow_cons_of_isDir hdir, ih h]

/-- More directories do not stop a path from being followed. -/
theorem follow_mono (hdirs : ∀ p, t.isDir p = true → t'.isDir p = true) {here there : Names}
    {ps : List String} (h : t.follow here ps = .ok there) : t'.follow here ps = .ok there := by
  induction ps generalizing here with
  | nil => exact h
  | cons part rest ih =>
    have hdir := isDir_of_follow_cons h
    rw [follow_cons_of_isDir hdir] at h
    rw [follow_cons_of_isDir (hdirs here hdir)]
    exact ih h

/-- Names can be followed through directories. -/
theorem follow_names {here : Names} {ns : List String} (hnames : ∀ n ∈ ns, n ≠ "..")
    (hdirs : ∀ q, q <+: ns → q ≠ ns → t.isDir (here ++ q) = true) :
    t.follow here ns = .ok (here ++ ns) := by
  induction ns generalizing here with
  | nil => rw [List.append_nil]; rfl
  | cons n ns ih =>
    have hhere : t.isDir here = true := by
      have := hdirs [] List.nil_prefix (List.cons_ne_nil n ns).symm
      rwa [List.append_nil] at this
    have hn : (n == "..") = false := beq_eq_false_iff_ne.mpr (hnames n List.mem_cons_self)
    rw [follow_cons_of_isDir hhere, hn, if_neg Bool.false_ne_true, ih]
    · rw [List.append_assoc, List.singleton_append]
    · exact fun m hm => hnames m (List.mem_cons_of_mem _ hm)
    · intro q hq hne
      have := hdirs (n :: q) (List.cons_prefix_cons.mpr ⟨rfl, hq⟩) (fun h => hne (List.cons.inj h).2)
      rwa [List.append_cons] at this

theorem follow_of_place {path : String} {here : Names} (h : t.place path = .ok here) :
    t.follow [] (parts path) = .ok here := by
  rw [place, Outcome.bind_eq_ok] at h
  obtain ⟨there, hfollow, hrest⟩ := h
  split at hrest
  · cases hrest
  · cases hrest
    exact hfollow

theorem place_of_follow {path : String} {here : Names}
    (hfollow : t.follow [] (parts path) = .ok here)
    (hend : endsWith path "/" = true → t.file? here = none) : t.place path = .ok here := by
  rw [place, hfollow]
  show (if endsWith path "/" && (t.file? here).isSome then _ else _) = _
  rw [if_neg]
  · rfl
  · intro hboth
    rw [Bool.and_eq_true] at hboth
    rw [hend hboth.1] at hboth
    cases hboth.2

/-- Where paths lead depends on the directories and on which files there are, not on what is in
them. -/
theorem place_congr (hdirs : t'.dirs = t.dirs)
    (hfiles : ∀ p, (t'.file? p).isSome = (t.file? p).isSome) (path : String) :
    t'.place path = t.place path := by
  have hfollow : ∀ (ps : List String) (here : Names), t'.follow here ps = t.follow here ps := by
    intro ps
    induction ps with
    | nil => exact fun _ => rfl
    | cons part rest ih =>
      intro here
      rw [follow, follow, isDir, isDir, hdirs, hfiles, ih, ih]
  rw [place, place, hfollow]
  cases t.follow [] (parts path) with
  | error e => rfl
  | ok here =>
    show (if endsWith path "/" && (t'.file? here).isSome then _ else _) =
      (if endsWith path "/" && (t.file? here).isSome then _ else _)
    rw [hfiles]

/-! ## Reading and writing -/

theorem read_eq {path : String} {here : Names} (h : t.place path = .ok here) :
    t.read path =
      if t.isDir here then .error .directoryThere
      else (t.file? here).elim (.error (.noSuchFile none)) .ok := by
  rw [read, h]
  show (if t.isDir here then _ else _) = _
  cases t.file? here with
  | none => rfl
  | some content => rfl

theorem lookup_setFile (files : List (Names × String)) (here p : Names) (content : String) :
    (setFile files here content).lookup p =
      if p = here then some content else files.lookup p := by
  induction files with
  | nil =>
    rw [setFile, List.lookup_cons]
    by_cases hp : p = here
    · simp [hp]
    · simp [hp, beq_eq_false_iff_ne.mpr hp]
  | cons f files ih =>
    obtain ⟨q, c⟩ := f
    rw [setFile]
    by_cases hq : q = here
    · rw [if_pos hq, List.lookup_cons, List.lookup_cons, hq]
      by_cases hp : p = here
      · simp [hp]
      · simp [hp, beq_eq_false_iff_ne.mpr hp]
    · rw [if_neg hq, List.lookup_cons, List.lookup_cons, ih]
      by_cases hpq : p = q
      · have hp : ¬ p = here := fun h => hq (hpq ▸ h)
        simp [hpq, hq]
      · simp [beq_eq_false_iff_ne.mpr hpq]

theorem write_eq {path : String} {here : Names} (h : t.place path = .ok here) (content : String) :
    t.write path content =
      if t.isDir here || endsWith path "/" then .error .directoryThere
      else if t.isDir here.dropLast then .ok { t with files := setFile t.files here content }
      else if (t.file? here.dropLast).isSome then .error .notDirectory
      else .error (.noSuchFile none) := by
  rw [write, h]
  rfl

/-- A file that could be written stands at the place of its path, in a directory, and nothing else has
changed. -/
theorem exists_of_write {path content : String} (h : t.write path content = .ok t') :
    ∃ here, t.place path = .ok here ∧ t' = { t with files := setFile t.files here content } ∧
      t.isDir here = false ∧ endsWith path "/" ≠ true ∧ t.isDir here.dropLast = true := by
  cases hplace : t.place path with
  | error e =>
    rw [write, hplace] at h
    cases h
  | ok here =>
    rw [write_eq hplace] at h
    split at h
    · cases h
    · next hfree =>
      rw [Bool.or_eq_true, not_or, Bool.not_eq_true] at hfree
      split at h
      · next hdir => exact ⟨here, rfl, (Except.ok.inj h).symm, hfree.1, hfree.2, hdir⟩
      · split at h
        · cases h
        · cases h

theorem file?_setFile (t : FileTree) (here p : Names) (content : String) :
    file? { t with files := setFile t.files here content } p =
      if p = here then some content else t.file? p :=
  lookup_setFile t.files here p content

theorem write_of_place {path : String} {here : Names} (hplace : t.place path = .ok here)
    (hfree : t.isDir here = false) (hend : endsWith path "/" ≠ true)
    (hdir : t.isDir here.dropLast = true) (content : String) :
    t.write path content = .ok { t with files := setFile t.files here content } := by
  rw [write_eq hplace, if_neg, if_pos hdir]
  rw [hfree, Bool.false_or]
  exact hend

/-! ## Making directories -/

theorem makeDir_eq {path : String} {here : Names} (h : t.place path = .ok here) :
    t.makeDir path =
      if t.isDir here || (t.file? here).isSome then .error .alreadyThere
      else if t.isDir here.dropLast then .ok { t with dirs := t.dirs ++ [here] }
      else if (t.file? here.dropLast).isSome then .error .notDirectory
      else .error (.noSuchFile none) := by
  rw [makeDir, h]
  rfl

/-- A directory that could be made stands where nothing was, in a directory. -/
theorem exists_of_makeDir {path : String} (h : t.makeDir path = .ok t') :
    ∃ here, t' = { t with dirs := t.dirs ++ [here] } ∧ t.isDir here = false ∧
      t.file? here = none ∧ t.isDir here.dropLast = true := by
  cases hplace : t.place path with
  | error e =>
    rw [makeDir, hplace] at h
    cases h
  | ok here =>
    rw [makeDir_eq hplace] at h
    split at h
    · cases h
    · next hfree =>
      rw [Bool.or_eq_true, not_or, Bool.not_eq_true, Bool.not_eq_true,
        Option.isSome_eq_false_iff, Option.isNone_iff_eq_none] at hfree
      split at h
      · next hdir => exact ⟨here, (Except.ok.inj h).symm, hfree.1, hfree.2, hdir⟩
      · split at h
        · cases h
        · cases h

/-- Making directories leaves all files as they are. -/
theorem files_of_makeMissing {done ps : List String} (h : t.makeMissing done ps = .ok t') :
    t'.files = t.files := by
  induction ps generalizing t done with
  | nil =>
    cases h
    rfl
  | cons part rest ih =>
    rw [makeMissing] at h
    split at h
    · exact ih h
    · obtain ⟨t₁, hmade, hrest⟩ := Outcome.bind_eq_ok.mp h
      obtain ⟨here, rfl, -⟩ := exists_of_makeDir hmade
      have hfiles : t'.files = ({ t with dirs := t.dirs ++ [here] } : FileTree).files := ih hrest
      exact hfiles

theorem files_of_makeDirs {path : String} (h : t.makeDirs path = .ok t') : t'.files = t.files := by
  rw [makeDirs] at h
  split at h
  · cases h
  · obtain ⟨t₁, hmade, hrest⟩ := Outcome.bind_eq_ok.mp h
    split at hrest
    · cases hrest
      exact files_of_makeMissing hmade
    · cases hrest

/-- The directory that comes next on a path is there already. -/
theorem makeMissing_of_isDir {done : List String} {part : String} (rest : List String) {here : Names}
    (hdone : ∀ p ∈ done ++ [part], Path.IsPart p)
    (hfollow : t.follow [] (done ++ [part]) = .ok here) (hdir : t.isDir here = true) :
    t.makeMissing done (part :: rest) = t.makeMissing (done ++ [part]) rest := by
  have hlast : Path.IsPart part := hdone part (by simp)
  have hplace : t.place ("/" ++ Text.join "/" (done ++ [part])) = .ok here := by
    refine place_of_follow ?_ fun hend => absurd hend (not_endsWith_ofParts hlast)
    rw [parts_ofParts hdone]
    exact hfollow
  have hexists : t.pathExists ("/" ++ Text.join "/" (done ++ [part])) = true := by
    rw [pathExists, hplace]
    dsimp only
    rw [hdir, Bool.true_or]
  rw [makeMissing]
  dsimp only
  rw [if_pos hexists]
  rfl

/-- The directory that comes next on a path is missing: it is made in the directory before it. -/
theorem makeMissing_of_free {done : List String} {name : String} (rest : List String) {here : Names}
    (hdone : ∀ p ∈ done ++ [name], Path.IsPart p) (hname : name ≠ "..")
    (hfollow : t.follow [] done = .ok here) (hdir : t.isDir here = true)
    (hnodir : t.isDir (here ++ [name]) = false) (hnofile : t.file? (here ++ [name]) = none) :
    t.makeMissing done (name :: rest) =
      makeMissing { t with dirs := t.dirs ++ [here ++ [name]] } (done ++ [name]) rest := by
  have hlast : Path.IsPart name := hdone name (by simp)
  have hnext : t.follow [] (done ++ [name]) = .ok (here ++ [name]) := by
    rw [follow_append hfollow, follow_cons_of_isDir hdir, beq_eq_false_iff_ne.mpr hname]
    rfl
  have hplace : t.place ("/" ++ Text.join "/" (done ++ [name])) = .ok (here ++ [name]) := by
    refine place_of_follow ?_ fun hend => absurd hend (not_endsWith_ofParts hlast)
    rw [parts_ofParts hdone]
    exact hnext
  have hexists : ¬ t.pathExists ("/" ++ Text.join "/" (done ++ [name])) = true := by
    rw [pathExists, hplace]
    dsimp only
    rw [hnodir, hnofile]
    exact Bool.false_ne_true
  have hmade : t.makeDir ("/" ++ Text.join "/" (done ++ [name])) =
      .ok { t with dirs := t.dirs ++ [here ++ [name]] } := by
    rw [makeDir_eq hplace, hnodir, hnofile, List.dropLast_concat, hdir]
    rfl
  rw [makeMissing]
  dsimp only
  rw [if_neg hexists, hmade]
  rfl

/-- The directories of a path that can be followed are all there. -/
theorem makeMissing_append {done ps : List String} (ns : List String) {here there : Names}
    (hdone : ∀ p ∈ done ++ ps, Path.IsPart p) (hfollow : t.follow [] done = .ok here)
    (hthere : t.follow here ps = .ok there) (hdir : t.isDir there = true) :
    t.makeMissing done (ps ++ ns) = t.makeMissing (done ++ ps) ns := by
  induction ps generalizing done here with
  | nil => rw [List.append_nil, List.nil_append]
  | cons part rest ih =>
    have hhere := isDir_of_follow_cons hthere
    rw [follow_cons_of_isDir hhere] at hthere
    have hnext : t.follow [] (done ++ [part]) =
        .ok (if part == ".." then here.dropLast else here ++ [part]) := by
      rw [follow_append hfollow, follow_cons_of_isDir hhere]
      rfl
    -- the next place is passed on the way, or it is the last one
    have hnextDir : t.isDir (if part == ".." then here.dropLast else here ++ [part]) = true := by
      cases rest with
      | nil =>
        cases hthere
        exact hdir
      | cons q qs => exact isDir_of_follow_cons hthere
    rw [List.append_cons] at hdone
    rw [List.cons_append, makeMissing_of_isDir _ (fun p hp => hdone p (List.mem_append_left _ hp))
      hnext hnextDir, ih hdone hnext hthere, ← List.append_cons]

theorem isDir_append_dirs (t : FileTree) (d p : Names) :
    isDir { t with dirs := t.dirs ++ [d] } p = true ↔ t.isDir p = true ∨ p = d := by
  simp only [isDir, Bool.or_eq_true, List.contains_iff_mem, List.mem_append, List.mem_singleton,
    or_assoc]

/-- The places that are passed under some names: the first one, and those below it. -/
theorem exists_prefix_cons {p here : Names} {n : String} {ns : List String} :
    (∃ q, q <+: n :: ns ∧ p = here ++ q) ↔ p = here ∨ ∃ q, q <+: ns ∧ p = here ++ [n] ++ q := by
  constructor
  · rintro ⟨q, hq, rfl⟩
    cases q with
    | nil => exact Or.inl (List.append_nil here)
    | cons m q =>
      obtain ⟨rfl, hrest⟩ := List.cons_prefix_cons.mp hq
      exact Or.inr ⟨q, hrest, List.append_cons here m q⟩
  · rintro (rfl | ⟨q, hq, rfl⟩)
    · exact ⟨[], List.nil_prefix, (List.append_nil p).symm⟩
    · exact ⟨n :: q, List.cons_prefix_cons.mpr ⟨rfl, hq⟩, (List.append_cons here n q).symm⟩

/-- Below a directory, the directories under some names are made if no file stands in their way. -/
theorem makeMissing_names {done ns : List String} {here : Names}
    (hparts : ∀ p ∈ done ++ ns, Path.IsPart p) (hnames : ∀ n ∈ ns, n ≠ "..")
    (hfollow : t.follow [] done = .ok here) (hdir : t.isDir here = true)
    (hfree : ∀ q, q <+: ns → q ≠ [] → t.file? (here ++ q) = none) :
    ∃ t', t.makeMissing done ns = .ok t' ∧ t'.files = t.files ∧
      ∀ p, t'.isDir p = true ↔ t.isDir p = true ∨ ∃ q, q <+: ns ∧ p = here ++ q := by
  induction ns generalizing t done here with
  | nil =>
    refine ⟨t, rfl, rfl, fun p => ⟨Or.inl, ?_⟩⟩
    rintro (hp | ⟨q, hq, rfl⟩)
    · exact hp
    · rw [List.prefix_nil.mp hq, List.append_nil]
      exact hdir
  | cons n ns ih =>
    rw [List.append_cons] at hparts
    have hdone : ∀ p ∈ done ++ [n], Path.IsPart p := fun p hp => hparts p (List.mem_append_left _ hp)
    have hn : n ≠ ".." := hnames n List.mem_cons_self
    have hlater : ∀ m ∈ ns, m ≠ ".." := fun m hm => hnames m (List.mem_cons_of_mem _ hm)
    have hnext : t.follow [] (done ++ [n]) = .ok (here ++ [n]) := by
      rw [follow_append hfollow, follow_cons_of_isDir hdir, beq_eq_false_iff_ne.mpr hn]
      rfl
    have hfreeNext : ∀ q, q <+: ns → q ≠ [] → t.file? (here ++ [n] ++ q) = none := by
      intro q hq _
      rw [List.append_assoc]
      exact hfree (n :: q) (List.cons_prefix_cons.mpr ⟨rfl, hq⟩) (List.cons_ne_nil _ _)
    by_cases hthere : t.isDir (here ++ [n]) = true
    · obtain ⟨t', hmade, hfiles, hdirs⟩ := ih hparts hlater hnext hthere hfreeNext
      refine ⟨t', (makeMissing_of_isDir ns hdone hnext hthere).trans hmade, hfiles, ?_⟩
      intro p
      rw [hdirs, exists_prefix_cons]
      constructor
      · rintro (hp | hp)
        · exact Or.inl hp
        · exact Or.inr (Or.inr hp)
      · rintro (hp | rfl | hp)
        · exact Or.inl hp
        · exact Or.inl hdir
        · exact Or.inr hp
    · have hnodir : t.isDir (here ++ [n]) = false := Bool.eq_false_iff.mpr hthere
      have hnofile := hfree [n] (List.cons_prefix_cons.mpr ⟨rfl, List.nil_prefix⟩)
        (List.cons_ne_nil _ _)
      have hmore := isDir_append_dirs t (here ++ [n])
      obtain ⟨t', hmade, hfiles, hdirs⟩ := ih
        (t := { t with dirs := t.dirs ++ [here ++ [n]] }) hparts hlater
        (follow_mono (fun p hp => (hmore p).mpr (Or.inl hp)) hnext)
        ((hmore _).mpr (Or.inr rfl)) hfreeNext
      refine ⟨t', (makeMissing_of_free ns hdone hn hfollow hdir hnodir hnofile).trans hmade, hfiles, ?_⟩
      intro p
      rw [hdirs, hmore, exists_prefix_cons]
      constructor
      · rintro ((hp | rfl) | hp)
        · exact Or.inl hp
        · exact Or.inr (Or.inr ⟨[], List.nil_prefix, (List.append_nil _).symm⟩)
        · exact Or.inr (Or.inr hp)
      · rintro (hp | rfl | hp)
        · exact Or.inl (Or.inl hp)
        · exact Or.inl (Or.inl hdir)
        · exact Or.inr hp

/-- **Directories below a directory.** -/
theorem makeDirs_below {path : String} {ps ns : List String} {dir : Names} (hpath : path ≠ "")
    (hparts : parts path = ps ++ ns) (hns : ns ≠ []) (hnames : ∀ n ∈ ns, n ≠ "..")
    (hfollow : t.follow [] ps = .ok dir) (hdir : t.isDir dir = true)
    (hfree : ∀ q, q <+: ns → q ≠ [] → t.file? (dir ++ q) = none) :
    ∃ t', t.makeDirs path = .ok t' ∧ t'.files = t.files ∧
      ∀ p, t'.isDir p = true ↔ t.isDir p = true ∨ ∃ q, q <+: ns ∧ p = dir ++ q := by
  have hpart : ∀ p ∈ ps ++ ns, Path.IsPart p := fun p hp => isPart_of_mem_parts (hparts ▸ hp)
  obtain ⟨t', hmade, hfiles, hdirs⟩ := makeMissing_names hpart hnames hfollow hdir hfree
  refine ⟨t', ?_, hfiles, hdirs⟩
  have hmissing : t.makeMissing [] (parts path) = .ok t' := by
    rw [hparts, makeMissing_append ns (fun p hp => hpart p (List.mem_append_left _ hp)) rfl hfollow
      hdir]
    exact hmade
  have hreached : t'.follow [] (parts path) = .ok (dir ++ ns) := by
    rw [hparts, follow_append (follow_mono (fun p hp => (hdirs p).mpr (Or.inl hp)) hfollow)]
    exact follow_names hnames fun q hq _ => (hdirs _).mpr (Or.inr ⟨q, hq, rfl⟩)
  have hplace : t'.place path = .ok (dir ++ ns) := by
    refine place_of_follow hreached fun _ => ?_
    rw [file?, hfiles]
    exact hfree ns List.prefix_rfl hns
  have hexists : t'.dirExists path = true := by
    rw [dirExists, hplace]
    exact (hdirs _).mpr (Or.inr ⟨ns, List.prefix_rfl, rfl⟩)
  have hnonempty : ¬ path.isEmpty = true := fun h => hpath (String.isEmpty_iff.mp h)
  rw [makeDirs, if_neg hnonempty, hmissing]
  show (if t'.dirExists path = true then _ else _) = _
  rw [if_pos hexists]
  rfl

/-- **A file below a directory.** -/
theorem write_below {path name : String} {ps ns : List String} {dir : Names}
    (hparts : parts path = ps ++ (ns ++ [name])) (hend : endsWith path "/" ≠ true)
    (hnames : ∀ n ∈ ns ++ [name], n ≠ "..") (hfollow : t.follow [] ps = .ok dir)
    (hdirs : ∀ q, q <+: ns → t.isDir (dir ++ q) = true)
    (hfree : t.isDir (dir ++ (ns ++ [name])) = false) (content : String) :
    t.write path content =
      .ok { t with files := setFile t.files (dir ++ (ns ++ [name])) content } := by
  have hreached : t.follow [] (parts path) = .ok (dir ++ (ns ++ [name])) := by
    rw [hparts, follow_append hfollow]
    refine follow_names hnames fun q hq hne => hdirs q ?_
    rcases List.prefix_concat_iff.mp hq with rfl | hq
    · exact absurd rfl hne
    · exact hq
  refine write_of_place (place_of_follow hreached fun h => absurd h hend) hfree hend ?_ content
  rw [← List.append_assoc, List.dropLast_concat]
  exact hdirs ns List.prefix_rfl

end Remedy.FileTree

/-! ## The files of a host -/

namespace Remedy.Host

open Remedy.Action

/-- There is always a time, and looking at the clock changes nothing else. -/
theorem now_exec (h : Host) : ∃ time clock, now.exec h = (.ok time, { h with clock }) := by
  rw [now, exec_bind_of_ok (exec_get _)]
  cases h.clock with
  | nil => exact ⟨_, h.clock, rfl⟩
  | cons time rest => exact ⟨time, rest, rfl⟩

theorem locate_exec (path : String) (h : Host) :
    (locate path).exec h =
      (if path.isEmpty then .error (.noSuchFile none)
        else .ok (Path.join h.workingDirectory path), h) := by
  unfold locate
  cases path.isEmpty <;> rfl

theorem updateFiles_exec {change : FileTree → Outcome FileTree} {h : Host} {files : FileTree}
    (hchange : change h.files = .ok files) :
    (updateFiles change).exec h = (.ok (), { h with files }) := by
  rw [updateFiles, exec_bind_of_ok (exec_get _), hchange]
  rfl

theorem write_exec {path content : String} {h : Host} {files : FileTree} (hpath : path ≠ "")
    (hwrite : h.files.write (Path.join h.workingDirectory path) content = .ok files) :
    (write path content).exec h = (.ok (), { h with files }) := by
  rw [write, exec_bind, locate_exec, if_neg fun h => hpath (String.isEmpty_iff.mp h)]
  exact updateFiles_exec hwrite

theorem makeDirs_exec {path : String} {h : Host} {files : FileTree} (hpath : path ≠ "")
    (hmade : h.files.makeDirs (Path.join h.workingDirectory path) = .ok files) :
    (makeDirs path).exec h = (.ok (), { h with files }) := by
  rw [makeDirs, exec_bind, locate_exec, if_neg fun h => hpath (String.isEmpty_iff.mp h)]
  exact updateFiles_exec hmade

theorem removeDir_exec {path : String} {h : Host} {files : FileTree} (hpath : path ≠ "")
    (hremoved : h.files.removeDir (Path.join h.workingDirectory path) = .ok files) :
    (removeDir path).exec h = (.ok (), { h with files }) := by
  rw [removeDir, exec_bind, locate_exec, if_neg fun h => hpath (String.isEmpty_iff.mp h)]
  exact updateFiles_exec hremoved

theorem pathExists_exec {path : String} (hpath : path ≠ "") (h : Host) :
    (pathExists path).exec h =
      (.ok (h.files.pathExists (Path.join h.workingDirectory path)), h) := by
  have hempty : path.isEmpty = false := Bool.eq_false_iff.mpr fun h => hpath (String.isEmpty_iff.mp h)
  unfold pathExists
  rw [exec_bind_of_ok (exec_get _), hempty, Bool.not_false, Bool.true_and, exec_pure]

/-- Directories can be made only as the files allow it. -/
theorem exists_of_makeDirs_exec {path : String} {h : Host} (hpath : path ≠ "")
    (hmade : ((makeDirs path).exec h).1 = .ok ()) :
    ∃ files, h.files.makeDirs (Path.join h.workingDirectory path) = .ok files := by
  cases hfiles : h.files.makeDirs (Path.join h.workingDirectory path) with
  | ok files => exact ⟨files, rfl⟩
  | error e =>
    rw [makeDirs, exec_bind, locate_exec, if_neg fun h => hpath (String.isEmpty_iff.mp h)] at hmade
    dsimp only at hmade
    rw [updateFiles, exec_bind_of_ok (exec_get _), hfiles] at hmade
    cases hmade

/-- A path that ends in a name does not ask for a directory. -/
theorem not_endsWith_join {name : String} (hname : Path.IsName name) (here front : String) :
    Text.endsWith (Path.join here (Path.join front name)) "/" ≠ true := by
  obtain ⟨before, hbefore⟩ := Path.exists_join_append front name
  obtain ⟨before', hbefore'⟩ := Path.exists_join_append here (Path.join front name)
  rw [hbefore', hbefore, ← String.append_assoc, Text.endsWith_append hname.1.1]
  exact hname.1.not_endsWith

/-- **A file below a directory, with its own directories.** Nothing but the file and the directories
on the way to it changes. -/
theorem writeWithDirs_below {h : Host} {front name : String} {ps ns : List String} {dir : Names}
    (hfront : front ≠ "") (hname : Path.IsName name)
    (hparts : FileTree.parts (Path.join h.workingDirectory front) = ps ++ ns) (hns : ns ≠ [])
    (hnames : ∀ n ∈ ns, n ≠ "..") (hfollow : h.files.follow [] ps = .ok dir)
    (hdir : h.files.isDir dir = true)
    (hfree : ∀ q, q <+: ns → q ≠ [] → h.files.file? (dir ++ q) = none)
    (hnodir : h.files.isDir (dir ++ (ns ++ [name])) = false) (text : String) :
    ∃ files, (writeWithDirs (Path.join front name) text).exec h = (.ok (), { h with files }) ∧
      (∀ p, files.file? p = if p = dir ++ (ns ++ [name]) then some text else h.files.file? p) ∧
      ∀ p, files.isDir p = true ↔ h.files.isDir p = true ∨ ∃ q, q <+: ns ∧ p = dir ++ q := by
  obtain ⟨hparent, hparentNe⟩ :=
    FileTree.parts_join_parent (a := h.workingDirectory) hfront hname.1
  obtain ⟨made, hmade, hfiles, hdirs⟩ := FileTree.makeDirs_below (Path.join_ne hparentNe _)
    (hparent.trans hparts) hns hnames hfollow hdir hfree
  -- after the directories are made, the file can be written
  have hwhole : FileTree.parts (Path.join h.workingDirectory (Path.join front name)) =
      ps ++ (ns ++ [name]) := by
    rw [FileTree.parts_join_join hname.1.not_startsWith, hparts, FileTree.parts_of_isPart hname.1,
      List.append_assoc]
  have hend := not_endsWith_join hname h.workingDirectory front
  have hdown : ∀ n ∈ ns ++ [name], n ≠ ".." := fun n hn =>
    (List.mem_append.mp hn).elim (hnames n) fun hn => List.mem_singleton.mp hn ▸ hname.2
  have hnodir' : made.isDir (dir ++ (ns ++ [name])) = false := by
    rw [Bool.eq_false_iff, Ne, hdirs, hnodir]
    rintro (hold | ⟨q, hq, heq⟩)
    · cases hold
    · rw [← List.append_cancel_left heq] at hq
      simpa using hq.length_le
  have hwritten := FileTree.write_below hwhole hend hdown
    (FileTree.follow_mono (fun p hp => (hdirs p).mpr (Or.inl hp)) hfollow)
    (fun q hq => (hdirs _).mpr (Or.inr ⟨q, hq, rfl⟩)) hnodir' text
  refine ⟨{ made with files := FileTree.setFile made.files (dir ++ (ns ++ [name])) text }, ?_,
    fun p => ?_, hdirs⟩
  · rw [writeWithDirs, exec_bind_of_ok (makeDirs_exec hparentNe hmade)]
    exact write_exec (h := { h with files := made }) (Path.join_ne hname.1.1 _) hwritten
  · rw [FileTree.file?_setFile, FileTree.file?, hfiles]
    rfl

/-! ### What a failed attempt leaves -/

/-- Making directories changes no file, whatever comes of it. -/
theorem makeDirs_snd (path : String) (h : Host) :
    ∃ files, ((makeDirs path).exec h).2 = { h with files } ∧ files.files = h.files.files := by
  rw [makeDirs, exec_bind, locate_exec]
  cases path.isEmpty with
  | true => exact ⟨h.files, rfl, rfl⟩
  | false =>
    show ∃ files, ((updateFiles (·.makeDirs (Path.join h.workingDirectory path))).exec h).2 =
      { h with files } ∧ _
    rw [updateFiles, exec_bind_of_ok (exec_get _)]
    cases hmade : h.files.makeDirs (Path.join h.workingDirectory path) with
    | error e => exact ⟨h.files, rfl, rfl⟩
    | ok files => exact ⟨files, rfl, FileTree.files_of_makeDirs hmade⟩

/-- Writing changes at most the file at the place of the path, which has the text if writing
succeeds. -/
theorem write_snd (path content : String) (h : Host) :
    ∃ files, ((write path content).exec h).2 = { h with files } ∧
      (∀ p, p ≠ FileTree.resolve [] (FileTree.parts (Path.join h.workingDirectory path)) →
        files.file? p = h.files.file? p) ∧
      (((write path content).exec h).1 = .ok () →
        files.file? (FileTree.resolve [] (FileTree.parts (Path.join h.workingDirectory path))) =
          some content) := by
  rw [write, exec_bind, locate_exec]
  cases path.isEmpty with
  | true =>
    refine ⟨h.files, rfl, fun _ _ => rfl, fun hok => ?_⟩
    cases hok
  | false =>
    show ∃ files, ((updateFiles (·.write (Path.join h.workingDirectory path) content)).exec h).2 =
      { h with files } ∧ _ ∧ (((updateFiles (·.write (Path.join h.workingDirectory path)
        content)).exec h).1 = .ok () → _)
    rw [updateFiles, exec_bind_of_ok (exec_get _)]
    cases hwritten : h.files.write (Path.join h.workingDirectory path) content with
    | error e =>
      refine ⟨h.files, rfl, fun _ _ => rfl, fun hok => ?_⟩
      cases hok
    | ok files =>
      obtain ⟨here, hplace, rfl, -⟩ := FileTree.exists_of_write hwritten
      obtain rfl := FileTree.resolve_of_follow (FileTree.follow_of_place hplace)
      refine ⟨_, rfl, fun p hp => ?_, fun _ => ?_⟩
      · rw [FileTree.file?_setFile, if_neg hp]
      · rw [FileTree.file?_setFile, if_pos rfl]

/-- The same for a file with its directories. -/
theorem writeWithDirs_snd (path content : String) (h : Host) :
    ∃ files, ((writeWithDirs path content).exec h).2 = { h with files } ∧
      (∀ p, p ≠ FileTree.resolve [] (FileTree.parts (Path.join h.workingDirectory path)) →
        files.file? p = h.files.file? p) ∧
      (((writeWithDirs path content).exec h).1 = .ok () →
        files.file? (FileTree.resolve [] (FileTree.parts (Path.join h.workingDirectory path))) =
          some content) := by
  obtain ⟨made, hmade, hfiles⟩ := makeDirs_snd (Path.parent path) h
  have hsame : ∀ p, made.file? p = h.files.file? p := fun p => by
    rw [FileTree.file?, hfiles]
    rfl
  rw [writeWithDirs, exec_bind]
  rcases hfirst : (makeDirs (Path.parent path)).exec h with ⟨o, h₁⟩
  rw [hfirst] at hmade
  obtain rfl : h₁ = { h with files := made } := hmade
  cases o with
  | error e =>
    refine ⟨made, rfl, fun p _ => hsame p, fun hok => ?_⟩
    cases hok
  | ok _ =>
    obtain ⟨files, hafter, hother, hwritten⟩ := write_snd path content { h with files := made }
    exact ⟨files, hafter, fun p hp => (hother p hp).trans (hsame p), hwritten⟩

end Remedy.Host
