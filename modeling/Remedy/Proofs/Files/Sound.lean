import Remedy.Proofs.Files.Tree

/-!
# Sound trees of files

In a sound tree everything stands in a directory, and no place is both a file and a directory. Trees
stay sound when directories are made and removed. A directory that is made where there was nothing and
removed again leaves all files as they were; at most some directories above it stay behind. Whether it
can be made is decided by the files alone.

Main results:

* `Sound.makeDirs`, `Sound.without`: sound trees stay sound.
* `Sound.free_below`: nothing stands below a free place.
* `clear_of_pathExists`, `clear_of_makeDirs`: a directory is there or can be made only if no file is
  in its way.
* `exists_grown`: if none is, it can be made and removed again, and leaves the files as they were.
-/

namespace Remedy.FileTree

open Text

variable {t t' : FileTree}

/-- Everything in the tree stands in a directory, and no place is both a file and a directory. -/
structure Sound (t : FileTree) : Prop where
  dirs : ∀ p ∈ t.dirs, t.isDir p.dropLast = true
  files : ∀ f ∈ t.files, t.isDir f.1.dropLast = true ∧ t.isDir f.1 = false

instance (t : FileTree) : Decidable t.Sound :=
  decidable_of_iff ((∀ p ∈ t.dirs, t.isDir p.dropLast = true) ∧
    ∀ f ∈ t.files, t.isDir f.1.dropLast = true ∧ t.isDir f.1 = false)
    ⟨fun h => ⟨h.1, h.2⟩, fun h => ⟨h.dirs, h.files⟩⟩

theorem isDir_iff {p : Names} : t.isDir p = true ↔ p = [] ∨ p ∈ t.dirs := by
  rw [isDir, Bool.or_eq_true, List.isEmpty_iff, List.contains_iff_mem]

theorem exists_mem_files {p : Names} {content : String} (h : t.file? p = some content) :
    ∃ f ∈ t.files, f.1 = p := by
  obtain ⟨before, after, hfiles, -⟩ := List.lookup_eq_some_iff.mp h
  exact ⟨(p, content), hfiles ▸ List.mem_append_right _ List.mem_cons_self, rfl⟩

namespace Sound

theorem isDir_dropLast (hs : t.Sound) {p : Names} (hp : t.isDir p = true) :
    t.isDir p.dropLast = true := by
  rcases isDir_iff.mp hp with rfl | hmem
  · rfl
  · exact hs.dirs p hmem

/-- Above a directory there are directories only. -/
theorem isDir_above (hs : t.Sound) {p q : Names} (hp : t.isDir p = true) (hq : q <+: p) :
    t.isDir q = true := by
  induction p using List.reverseRecOn with
  | nil =>
    rw [List.prefix_nil.mp hq]
    exact hp
  | append_singleton p n ih =>
    rcases List.prefix_concat_iff.mp hq with rfl | hq
    · exact hp
    · have hparent := hs.isDir_dropLast hp
      rw [List.dropLast_concat] at hparent
      exact ih hparent hq

theorem file?_of_isDir (hs : t.Sound) {p : Names} (hp : t.isDir p = true) : t.file? p = none := by
  cases hfile : t.file? p with
  | none => rfl
  | some content =>
    obtain ⟨f, hf, rfl⟩ := exists_mem_files hfile
    rw [(hs.files f hf).2] at hp
    cases hp

/-- Nothing stands below a free place. -/
theorem free_below (hs : t.Sound) {here : Names} (hdir : t.isDir here = false)
    (hfile : t.file? here = none) :
    (∀ p ∈ t.dirs, ¬ here <+: p) ∧ ∀ f ∈ t.files, ¬ here <+: f.1 := by
  -- a directory below would have one at the place
  have hnone : ∀ {p : Names}, here <+: p → t.isDir p ≠ true := by
    intro p hp hisDir
    rw [hs.isDir_above hisDir hp] at hdir
    cases hdir
  refine ⟨fun p hp hbelow => hnone hbelow (isDir_iff.mpr (Or.inr hp)), fun f hf hbelow => ?_⟩
  obtain ⟨hparent, -⟩ := hs.files f hf
  rcases List.eq_nil_or_concat' f.1 with hroot | ⟨above, n, hplace⟩
  · -- the root is a directory
    rw [hroot] at hbelow
    exact hnone hbelow rfl
  · rw [hplace] at hbelow hparent
    rcases List.prefix_concat_iff.mp hbelow with hhere | habove
    · have hother := List.lookup_eq_none_iff.mp hfile f hf
      rw [hhere, hplace] at hother
      simp at hother
    · rw [List.dropLast_concat] at hparent
      exact hnone habove hparent

/-! ## Changes -/

theorem addDir (hs : t.Sound) {here : Names} (hfile : t.file? here = none)
    (hparent : t.isDir here.dropLast = true) : Sound { t with dirs := t.dirs ++ [here] } := by
  have hmore := isDir_append_dirs t here
  constructor
  · intro p hp
    rcases List.mem_append.mp hp with hold | hnew
    · exact (hmore _).mpr (Or.inl (hs.dirs p hold))
    · rw [List.mem_singleton.mp hnew]
      exact (hmore _).mpr (Or.inl hparent)
  · intro f hf
    obtain ⟨hdir, hnodir⟩ := hs.files f hf
    refine ⟨(hmore _).mpr (Or.inl hdir), Bool.eq_false_iff.mpr fun h => ?_⟩
    rcases (hmore f.1).mp h with hold | rfl
    · rw [hnodir] at hold
      cases hold
    · have hother := List.lookup_eq_none_iff.mp hfile f hf
      simp at hother

theorem makeMissing (hs : t.Sound) {done ps : List String}
    (h : t.makeMissing done ps = .ok t') : t'.Sound := by
  induction ps generalizing t done with
  | nil =>
    cases h
    exact hs
  | cons part rest ih =>
    rw [FileTree.makeMissing] at h
    split at h
    · exact ih hs h
    · obtain ⟨t₁, hmade, hrest⟩ := Outcome.bind_eq_ok.mp h
      obtain ⟨here, rfl, -, hfile, hparent⟩ := exists_of_makeDir hmade
      exact ih (hs.addDir hfile hparent) hrest

end Sound

/-- The directory that is made is there. -/
theorem dirExists_of_makeDirs {path : String} (h : t.makeDirs path = .ok t') :
    t.makeMissing [] (parts path) = .ok t' ∧ t'.dirExists path = true := by
  rw [makeDirs] at h
  split at h
  · cases h
  · obtain ⟨t₁, hmade, hrest⟩ := Outcome.bind_eq_ok.mp h
    split at hrest
    · next hexists =>
      cases hrest
      exact ⟨hmade, hexists⟩
    · cases hrest

theorem exists_place_of_dirExists {path : String} (h : t.dirExists path = true) :
    ∃ here, t.place path = .ok here ∧ t.isDir here = true := by
  rw [dirExists] at h
  cases hplace : t.place path with
  | error e =>
    rw [hplace] at h
    cases h
  | ok here =>
    rw [hplace] at h
    exact ⟨here, rfl, h⟩

theorem pathExists_of_dirExists {path : String} (h : t.dirExists path = true) :
    t.pathExists path = true := by
  obtain ⟨here, hplace, hdir⟩ := exists_place_of_dirExists h
  rw [pathExists, hplace]
  exact Bool.or_eq_true _ _ ▸ .inl hdir

theorem Sound.makeDirs (hs : t.Sound) {path : String} (h : t.makeDirs path = .ok t') : t'.Sound :=
  hs.makeMissing (dirExists_of_makeDirs h).1

/-- The tree without what stands at a place and below it. -/
def without (t : FileTree) (here : Names) : FileTree where
  dirs := t.dirs.filter (!below here ·)
  files := t.files.filter (!below here ·.1)

theorem removeDir_eq {path : String} {here : Names} (hplace : t.place path = .ok here)
    (hdir : t.isDir here = true) (hfile : t.file? here = none) :
    t.removeDir path = .ok (t.without here) := by
  rw [removeDir, hplace]
  show (if (t.file? here).isSome then _ else _) = _
  rw [hfile, hdir]
  rfl

theorem not_below_iff {here p : Names} : (!below here p) = true ↔ ¬ here <+: p := by
  rw [below, Bool.not_eq_true', Bool.eq_false_iff, Ne, List.isPrefixOf_iff_prefix]

theorem isDir_without {here p : Names} :
    (t.without here).isDir p = true ↔ p = [] ∨ t.isDir p = true ∧ ¬ here <+: p := by
  rw [isDir_iff, isDir_iff, without, List.mem_filter, not_below_iff]
  tauto

theorem Sound.without (hs : t.Sound) (here : Names) : (t.without here).Sound := by
  -- what is not below the place has its directory not below it either
  have hparent : ∀ {p : Names}, t.isDir p.dropLast = true → ¬ here <+: p →
      (t.without here).isDir p.dropLast = true := fun hdir hbelow =>
    isDir_without.mpr (Or.inr ⟨hdir, fun h => hbelow (h.trans (List.dropLast_prefix _))⟩)
  constructor
  · intro p hp
    obtain ⟨hmem, hbelow⟩ := List.mem_filter.mp hp
    exact hparent (hs.dirs p hmem) (not_below_iff.mp hbelow)
  · intro f hf
    obtain ⟨hmem, hbelow⟩ := List.mem_filter.mp hf
    obtain ⟨hdir, hnodir⟩ := hs.files f hmem
    refine ⟨hparent hdir (not_below_iff.mp hbelow), Bool.eq_false_iff.mpr fun h => ?_⟩
    rcases isDir_without.mp h with hroot | ⟨hold, -⟩
    · rw [hroot] at hnodir
      cases hnodir
    · rw [hnodir] at hold
      cases hold

/-! ## Ways -/

/-- No file stands on the way to a path or at its end. -/
def Clear (t : FileTree) (path : String) : Prop :=
  ∀ qs, qs <+: parts path → t.file? (resolve [] qs) = none

/-- A path leads down from a directory that is there. -/
def LeadsDown (t : FileTree) (path : String) : Prop :=
  ∃ ps ns dir, parts path = ps ++ ns ∧ t.follow [] ps = .ok dir ∧ t.isDir dir = true ∧
    ∀ n ∈ ns, n ≠ ".."

/-- A name in a directory that is there leads down from it. -/
theorem leadsDown_of_dirExists {here front name : String}
    (hdir : t.dirExists (Path.join here front) = true) (hname : Path.IsName name) :
    t.LeadsDown (Path.join here (Path.join front name)) := by
  obtain ⟨dir, hplace, hisDir⟩ := exists_place_of_dirExists hdir
  refine ⟨_, [name], dir, ?_, follow_of_place hplace, hisDir, ?_⟩
  · rw [parts_join_join hname.1.not_startsWith, parts_of_isPart hname.1]
  · exact List.forall_mem_singleton.mpr hname.2

/-- What is passed on the way to the last part is a directory. -/
theorem isDir_of_follow_concat {here there : Names} {ps : List String} {n : String}
    (h : t.follow here (ps ++ [n]) = .ok there) {qs : List String} (hqs : qs <+: ps) :
    t.isDir (resolve here qs) = true := by
  induction ps generalizing here qs with
  | nil =>
    rw [List.prefix_nil.mp hqs]
    exact isDir_of_follow_cons h
  | cons part rest ih =>
    have hhere := isDir_of_follow_cons h
    cases qs with
    | nil => exact hhere
    | cons q qs =>
      obtain ⟨rfl, hrest⟩ := List.cons_prefix_cons.mp hqs
      rw [List.cons_append, follow_cons_of_isDir hhere] at h
      exact ih h hrest

section Below

variable {path inside name : String} (hs : t.Sound)
  (hparts : parts inside = parts path ++ [name])

include hs hparts

theorem clear_of_place {there : Names} (h : t.place inside = .ok there) : t.Clear path := by
  intro qs hqs
  have hfollow := follow_of_place h
  rw [hparts] at hfollow
  exact hs.file?_of_isDir (isDir_of_follow_concat hfollow hqs)

theorem clear_of_pathExists (h : t.pathExists inside = true) : t.Clear path := by
  rw [pathExists] at h
  cases hplace : t.place inside with
  | error e =>
    rw [hplace] at h
    cases h
  | ok there => exact clear_of_place hs hparts hplace

theorem clear_of_makeDirs (h : t.makeDirs inside = .ok t') : t.Clear path := by
  obtain ⟨there, hplace, -⟩ := exists_place_of_dirExists (dirExists_of_makeDirs h).2
  -- afterwards the way is clear, and making directories does not touch files
  intro qs hqs
  have hclear := clear_of_place (hs.makeDirs h) hparts hplace qs hqs
  rwa [file?, files_of_makeDirs h] at hclear

end Below

/-! ## Directories that are made and removed again -/

/-- A tree that has the same files as an earlier one and at most more directories. -/
structure Grown (t t' : FileTree) : Prop where
  sound : t'.Sound
  files : t'.files = t.files
  dirs : ∀ p, t.isDir p = true → t'.isDir p = true

theorem Sound.grown (hs : t.Sound) : t.Grown t := ⟨hs, rfl, fun _ h => h⟩

namespace Grown

theorem trans {t'' : FileTree} (h : t.Grown t') (h' : t'.Grown t'') : t.Grown t'' :=
  ⟨h'.sound, h'.files.trans h.files, fun p hp => h'.dirs p (h.dirs p hp)⟩

theorem clear_iff (h : t.Grown t') {path : String} : t'.Clear path ↔ t.Clear path := by
  simp only [Clear, file?, h.files]

theorem leadsDown (h : t.Grown t') {path : String} (hpath : t.LeadsDown path) :
    t'.LeadsDown path := by
  obtain ⟨ps, ns, dir, hparts, hfollow, hdir, hnames⟩ := hpath
  exact ⟨ps, ns, dir, hparts, follow_mono h.dirs hfollow, h.dirs dir hdir, hnames⟩

end Grown

/-- A place that a path leads down to is free if the path does not exist. -/
theorem free_of_not_pathExists (hs : t.Sound) {path : String} {ps ns : List String} {n : String}
    {dir : Names} (hparts : parts path = ps ++ (ns ++ [n])) (hend : endsWith path "/" ≠ true)
    (hnames : ∀ m ∈ ns ++ [n], m ≠ "..") (hfollow : t.follow [] ps = .ok dir)
    (h : t.pathExists path ≠ true) :
    t.isDir (dir ++ (ns ++ [n])) = false ∧ t.file? (dir ++ (ns ++ [n])) = none := by
  -- what stands there could be reached through directories
  have hreached : t.isDir (dir ++ ns) = true → t.place path = .ok (dir ++ (ns ++ [n])) := by
    intro hparent
    refine place_of_follow ?_ fun h => absurd h hend
    rw [hparts, follow_append hfollow]
    refine follow_names hnames fun q hq hne => ?_
    rcases List.prefix_concat_iff.mp hq with rfl | hq
    · exact absurd rfl hne
    · exact hs.isDir_above hparent ((List.prefix_append_right_inj dir).mpr hq)
  have hdrop : (dir ++ (ns ++ [n])).dropLast = dir ++ ns := by
    rw [← List.append_assoc, List.dropLast_concat]
  constructor
  · refine Bool.eq_false_iff.mpr fun hdir => h ?_
    have hparent := hs.isDir_dropLast hdir
    rw [hdrop] at hparent
    rw [pathExists, hreached hparent]
    dsimp only
    rw [hdir, Bool.true_or]
  · refine Option.eq_none_iff_forall_ne_some.mpr fun content hcontent => h ?_
    obtain ⟨f, hf, hplace⟩ := exists_mem_files hcontent
    have hparent := (hs.files f hf).1
    rw [hplace, hdrop] at hparent
    rw [pathExists, hreached hparent]
    dsimp only
    rw [hcontent, Option.isSome_some, Bool.or_true]

/-- **A directory for a while.** If no file is in the way, a directory that is not there can be
made, and removing it leaves the files as they were. -/
theorem exists_grown (hs : t.Sound) {path inside name : String}
    (hparts : parts inside = parts path ++ [name]) (hname : name ≠ "..")
    (hend : endsWith inside "/" ≠ true) (hleads : t.LeadsDown path) (hclear : t.Clear path)
    (h : t.pathExists inside ≠ true) :
    ∃ made left, t.makeDirs inside = .ok made ∧ made.removeDir inside = .ok left ∧
      t.Grown left := by
  obtain ⟨ps, ns, dir, hpath, hfollow, hdir, hnames⟩ := hleads
  have hall : parts inside = ps ++ (ns ++ [name]) := by
    rw [hparts, hpath, List.append_assoc]
  have hdown : ∀ n ∈ ns ++ [name], n ≠ ".." := fun n hn =>
    (List.mem_append.mp hn).elim (hnames n) fun hn => List.mem_singleton.mp hn ▸ hname
  obtain ⟨hnodir, hnofile⟩ := free_of_not_pathExists hs hall hend hdown hfollow h
  -- so there is room for the directory and for those above it
  have hfree : ∀ q, q <+: ns ++ [name] → q ≠ [] → t.file? (dir ++ q) = none := by
    intro q hq _
    rcases List.prefix_concat_iff.mp hq with rfl | hq
    · exact hnofile
    · have hway := hclear (ps ++ q) (hpath ▸ (List.prefix_append_right_inj ps).mpr hq)
      rwa [resolve_append, ← resolve_of_follow hfollow,
        resolve_names fun n hn => hnames n (hq.subset hn)] at hway
  have hnonempty : inside ≠ "" := by
    rintro rfl
    rw [parts_empty] at hall
    simp at hall
  obtain ⟨made, hmade, hfiles, hdirs⟩ :=
    makeDirs_below hnonempty hall (by simp) hdown hfollow hdir hfree
  have hsound := hs.makeDirs hmade
  have hthere : made.isDir (dir ++ (ns ++ [name])) = true :=
    (hdirs _).mpr (Or.inr ⟨ns ++ [name], List.prefix_rfl, rfl⟩)
  have hplace : made.place inside = .ok (dir ++ (ns ++ [name])) := by
    obtain ⟨there, hplace, -⟩ := exists_place_of_dirExists (dirExists_of_makeDirs hmade).2
    rw [hplace, resolve_of_follow (follow_of_place hplace), hall, resolve_append,
      ← resolve_of_follow hfollow, resolve_names hdown]
  refine ⟨made, made.without (dir ++ (ns ++ [name])), hmade,
    removeDir_eq hplace hthere (hsound.file?_of_isDir hthere), hsound.without _, ?_, fun p hp => ?_⟩
  · -- nothing was below the place, so nothing is removed with it
    obtain ⟨-, hnone⟩ := hs.free_below hnodir hnofile
    show made.files.filter _ = _
    rw [hfiles, List.filter_eq_self]
    exact fun f hf => not_below_iff.mpr (hnone f hf)
  · obtain ⟨hnone, -⟩ := hs.free_below hnodir hnofile
    rcases isDir_iff.mp hp with rfl | hmem
    · rfl
    · exact isDir_without.mpr (Or.inr ⟨(hdirs p).mpr (Or.inl hp), hnone p hmem⟩)

end Remedy.FileTree
