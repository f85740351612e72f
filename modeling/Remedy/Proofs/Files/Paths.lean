import Remedy.Files.Tree
import Remedy.Proofs.Report.Location

/-!
# The parts of paths

A path is given as a text and followed part by part. Empty parts and single points lead nowhere, so
two texts with the same other parts name the same place. The parts of a path that was put together are
those of its pieces, one after the other.

Main results:

* `parts_slash`, `parts_join`: the parts of two paths with a slash between them, or joined.
* `parts_ofParts`: a list of parts is read back from the path that is written with them.
* `parts_join_parent`: the directory of a file has the parts of the path without the name of the file.
-/

namespace Remedy

/-! ## Splitting at a character -/

namespace Text

variable {sep : Char}

theorem piecesFrom_cons (piece : List Char) (c : Char) (cs : List Char) :
    piecesFrom [sep] 0 piece (c :: cs) =
      if c = sep then piece.reverse :: piecesFrom [sep] 0 [] cs
      else piecesFrom [sep] 0 (c :: piece) cs := by
  have hfront : [sep].isPrefixOf (c :: cs) = (sep == c) := by
    simp [List.isPrefixOf]
  rw [piecesFrom, hfront]
  by_cases hc : c = sep
  · simp [hc]
  · have hsep : ¬ sep = c := fun h => hc h.symm
    simp [hc, hsep]

theorem piecesFrom_append (piece a b : List Char) :
    piecesFrom [sep] 0 piece (a ++ sep :: b) =
      piecesFrom [sep] 0 piece a ++ piecesFrom [sep] 0 [] b := by
  induction a generalizing piece with
  | nil =>
    rw [List.nil_append, piecesFrom_cons, if_pos rfl]
    rfl
  | cons c a ih =>
    rw [List.cons_append, piecesFrom_cons, piecesFrom_cons]
    split
    · rw [ih, List.cons_append]
    · rw [ih]

theorem piecesFrom_of_notMem {a : List Char} (h : sep ∉ a) (piece : List Char) :
    piecesFrom [sep] 0 piece a = [piece.reverse ++ a] := by
  induction a generalizing piece with
  | nil => rw [List.append_nil]; rfl
  | cons c a ih =>
    have hc : c ≠ sep := fun hc => h (hc ▸ List.mem_cons_self)
    rw [piecesFrom_cons, if_neg hc, ih (fun ha => h (List.mem_cons_of_mem _ ha)),
      List.reverse_cons, List.append_assoc, List.singleton_append]

theorem piecesFrom_ne_nil (piece cs : List Char) : piecesFrom [sep] 0 piece cs ≠ [] := by
  induction cs generalizing piece with
  | nil => exact List.cons_ne_nil _ _
  | cons c cs ih =>
    rw [piecesFrom_cons]
    split
    · exact List.cons_ne_nil _ _
    · exact ih _

/-- No piece has the separator in it. -/
theorem notMem_of_mem_piecesFrom {piece cs p : List Char} (hpiece : sep ∉ piece)
    (h : p ∈ piecesFrom [sep] 0 piece cs) : sep ∉ p := by
  induction cs generalizing piece with
  | nil =>
    obtain rfl := List.mem_singleton.mp h
    rwa [List.mem_reverse]
  | cons c cs ih =>
    rw [piecesFrom_cons] at h
    split at h
    · rcases List.mem_cons.mp h with rfl | h
      · rwa [List.mem_reverse]
      · exact ih (List.not_mem_nil) h
    · rename_i hc
      refine ih ?_ h
      intro hmem
      rcases List.mem_cons.mp hmem with hsep | hmem
      · exact hc hsep.symm
      · exact hpiece hmem

theorem split_slash (a b : String) : split (a ++ "/" ++ b) "/" = split a "/" ++ split b "/" := by
  have hchars : (a ++ "/" ++ b).toList = a.toList ++ '/' :: b.toList := by
    rw [String.toList_append, String.toList_append, List.append_assoc]
    rfl
  show (piecesFrom ['/'] 0 [] (a ++ "/" ++ b).toList).map String.ofList = _
  rw [hchars, piecesFrom_append, List.map_append]
  rfl

theorem split_of_notMem {p : String} (h : '/' ∉ p.toList) : split p "/" = [p] := by
  show (piecesFrom ['/'] 0 [] p.toList).map String.ofList = _
  rw [piecesFrom_of_notMem h]
  simp

theorem notMem_of_mem_split {s p : String} (h : p ∈ split s "/") : '/' ∉ p.toList := by
  obtain ⟨cs, hcs, rfl⟩ := List.mem_map.mp h
  rw [String.toList_ofList]
  exact notMem_of_mem_piecesFrom List.not_mem_nil hcs

/-- Cutting at a character that comes after what has none of it. -/
theorem cut?_singleton {x : List Char} (h : sep ∉ x) (y : List Char) :
    cut? [sep] (x ++ sep :: y) = some (x, y) := by
  induction x with
  | nil => exact cut?_append [sep] y
  | cons c x ih =>
    have hc : ¬ sep = c := fun hc => h (hc ▸ List.mem_cons_self)
    rw [List.cons_append, cut?, front?, if_neg hc]
    show (cut? [sep] (x ++ sep :: y)).map _ = _
    rw [ih fun hx => h (List.mem_cons_of_mem _ hx)]
    rfl

theorem startsWith_append {s : String} (h : s ≠ "") (rest : String) :
    startsWith (s ++ rest) "/" = startsWith s "/" := by
  rw [startsWith, startsWith, String.toList_append]
  cases hs : s.toList with
  | nil =>
    refine absurd ?_ h
    rw [← String.toList_inj, hs]
    rfl
  | cons c cs => simp [List.isPrefixOf]

theorem endsWith_append {s : String} (h : s ≠ "") (front : String) :
    endsWith (front ++ s) "/" = endsWith s "/" := by
  rw [endsWith, endsWith, List.isSuffixOf, List.isSuffixOf, String.toList_append, List.reverse_append]
  cases hs : s.toList.reverse with
  | nil =>
    refine absurd ?_ h
    rw [← String.toList_inj, List.reverse_eq_nil_iff.mp hs]
    rfl
  | cons c cs => simp [List.isPrefixOf]

end Text

/-! ## Parts -/

namespace Path

open Text

/-- A part of a path that leads somewhere, perhaps up. -/
def IsPart (p : String) : Prop :=
  p ≠ "" ∧ p ≠ "." ∧ '/' ∉ p.toList

/-- A part of a path that leads down: the name of a file or of a directory. -/
def IsName (p : String) : Prop :=
  IsPart p ∧ p ≠ ".."

/-- A path that only leads down, written without a detour. -/
def IsPlain (path : String) : Prop :=
  ∀ p ∈ split path "/", IsName p

instance (p : String) : Decidable (IsPart p) :=
  inferInstanceAs (Decidable (_ ∧ _ ∧ _))

instance (p : String) : Decidable (IsName p) :=
  inferInstanceAs (Decidable (_ ∧ _))

instance (path : String) : Decidable (IsPlain path) :=
  List.decidableBAll _ _

theorem IsPart.not_startsWith {p : String} (h : IsPart p) : startsWith p "/" ≠ true := by
  intro hstarts
  obtain ⟨rest, rfl⟩ := startsWith_iff.mp hstarts
  refine h.2.2 ?_
  rw [String.toList_append]
  exact List.mem_append_left _ (by decide)

theorem IsPart.not_endsWith {p : String} (h : IsPart p) : endsWith p "/" ≠ true := by
  intro hends
  obtain ⟨front, rfl⟩ := endsWith_iff.mp hends
  refine h.2.2 ?_
  rw [String.toList_append]
  exact List.mem_append_right _ (by decide)

theorem IsName.isPlain {p : String} (h : IsName p) : IsPlain p := by
  intro q hq
  rw [split_of_notMem h.1.2.2] at hq
  rw [List.mem_singleton.mp hq]
  exact h

/-- A path that only leads down does not begin at the root. -/
theorem IsPlain.not_startsWith {path : String} (h : IsPlain path) : startsWith path "/" ≠ true := by
  intro hstarts
  obtain ⟨rest, rfl⟩ := startsWith_iff.mp hstarts
  -- in front of the slash stands an empty part
  have hsplit : split ("/" ++ rest) "/" = split "" "/" ++ split rest "/" := split_slash "" rest
  refine (h "" ?_).1.1 rfl
  rw [hsplit]
  exact List.mem_append_left _ (by decide)

theorem IsPlain.ne_empty {path : String} (h : IsPlain path) : path ≠ "" := by
  rintro rfl
  exact (h "" (by decide)).1.1 rfl

/-- A joined path has a slash in front of what was put under the directory. -/
theorem exists_join_slash {a b : String} (ha : a ≠ "") (hb : startsWith b "/" ≠ true) :
    ∃ front, join a b = front ++ "/" ++ b ∧ (front = a ∨ a = front ++ "/") := by
  rw [join, if_neg hb]
  split
  · rename_i h
    rcases Bool.or_eq_true _ _ ▸ h with hempty | hends
    · exact absurd (String.isEmpty_iff.mp hempty) ha
    · obtain ⟨front, hfront⟩ := endsWith_iff.mp hends
      exact ⟨front, by rw [hfront], Or.inr hfront⟩
  · exact ⟨a, rfl, Or.inl rfl⟩

/-- What is joined to a path stands at its end. -/
theorem exists_join_append (a b : String) : ∃ front, join a b = front ++ b := by
  rw [join]
  split
  · exact ⟨"", String.empty_append.symm⟩
  · split
    · exact ⟨a, rfl⟩
    · exact ⟨a ++ "/", rfl⟩

theorem join_ne {b : String} (hb : b ≠ "") (a : String) : join a b ≠ "" := by
  obtain ⟨front, hjoin⟩ := exists_join_append a b
  rw [hjoin]
  exact fun hempty => hb (String.append_eq_empty_iff.mp hempty).2

theorem joinAll_ne {a : String} {bs : List String} (ha : a ≠ "") (hbs : ∀ b ∈ bs, b ≠ "") :
    joinAll a bs ≠ "" := by
  induction bs generalizing a with
  | nil => exact ha
  | cons b bs ih =>
    exact ih (join_ne (hbs b List.mem_cons_self) a) fun c hc => hbs c (List.mem_cons_of_mem _ hc)

/-- The directory of a path is what is in front of its last slash, up to slashes at the end. -/
theorem exists_parent_append (front : String) {name : String} (h : '/' ∉ name.toList) :
    ∃ k, front ++ "/" = parent (front ++ "/" ++ name) ++ String.ofList (List.replicate k '/') ∧
      parent (front ++ "/" ++ name) ≠ "" := by
  have hcut : cutAtLast? (front ++ "/" ++ name) "/" = some (front, name) := by
    have hreverse : (front ++ "/" ++ name).toList.reverse =
        name.toList.reverse ++ '/' :: front.toList.reverse := by
      simp [String.toList_append]
    show (cut? ['/'] (front ++ "/" ++ name).toList.reverse).map _ = _
    rw [hreverse, cut?_singleton (fun hmem => h (List.mem_reverse.mp hmem))]
    simp
  have hhead : String.ofList (front.toList ++ ['/']) = front ++ "/" := by
    rw [← String.toList_inj, String.toList_ofList, String.toList_append]
    rfl
  rw [parent, hcut]
  dsimp only
  split
  · refine ⟨0, ?_, ?_⟩
    · rw [hhead]
      simp
    · intro hempty
      have := congrArg String.toList hempty
      simp at this
  · rename_i hall
    -- what is dropped at the end are slashes, and something else is left
    have hslashes : (front.toList ++ ['/']).rtakeWhile (· == '/') =
        List.replicate ((front.toList ++ ['/']).rtakeWhile (· == '/')).length '/' :=
      List.eq_replicate_of_mem fun c hc => by simpa using List.mem_rtakeWhile_imp hc
    refine ⟨((front.toList ++ ['/']).rtakeWhile (· == '/')).length, ?_, ?_⟩
    · rw [← hslashes, ← hhead, ← String.ofList_append]
      exact congrArg String.ofList List.rdropWhile_append_rtakeWhile.symm
    · intro hempty
      have hnil : (front.toList ++ ['/']).rdropWhile (· == '/') = [] := by
        rw [← String.toList_inj, String.toList_ofList] at hempty
        exact hempty
      refine hall (List.all_eq_true.mpr ?_)
      exact List.rdropWhile_eq_nil_iff.mp hnil

end Path

namespace FileTree

open Text

theorem isPart_of_mem_parts {path p : String} (h : p ∈ parts path) : Path.IsPart p := by
  obtain ⟨hmem, htest⟩ := List.mem_filter.mp h
  simp only [Bool.and_eq_true, Bool.not_eq_true', bne_iff_ne, ne_eq, String.isEmpty_eq_false_iff]
    at htest
  exact ⟨htest.1, htest.2, notMem_of_mem_split hmem⟩

theorem parts_empty : parts "" = [] := by
  decide

theorem parts_of_isPart {p : String} (h : Path.IsPart p) : parts p = [p] := by
  rw [parts, split_of_notMem h.2.2]
  simp [h.1, h.2.1]

theorem parts_of_isPlain {path : String} (h : Path.IsPlain path) : parts path = split path "/" := by
  rw [parts, List.filter_eq_self]
  intro p hp
  simp [(h p hp).1.1, (h p hp).1.2.1]

/-- A path that only leads down leads somewhere. -/
theorem parts_ne_nil_of_isPlain {path : String} (h : Path.IsPlain path) : parts path ≠ [] := by
  rw [parts_of_isPlain h]
  exact fun hnil => piecesFrom_ne_nil _ _ (List.map_eq_nil_iff.mp hnil)

theorem isName_of_isPlain {path p : String} (h : Path.IsPlain path) (hp : p ∈ parts path) :
    Path.IsName p := by
  rw [parts_of_isPlain h] at hp
  exact h p hp

theorem parts_slash (a b : String) : parts (a ++ "/" ++ b) = parts a ++ parts b := by
  rw [parts, split_slash, List.filter_append]
  rfl

/-- Slashes at the end add no part. -/
theorem parts_append_slashes (a : String) (k : Nat) :
    parts (a ++ String.ofList (List.replicate k '/')) = parts a := by
  induction k with
  | zero => simp
  | succ k ih =>
    have hmore : a ++ String.ofList (List.replicate (k + 1) '/') =
        a ++ String.ofList (List.replicate k '/') ++ "/" ++ "" := by
      rw [List.replicate_succ', String.ofList_append]
      simp [String.append_assoc]
    rw [hmore, parts_slash, ih, parts_empty, List.append_nil]

theorem parts_append_slash (a : String) : parts (a ++ "/") = parts a :=
  parts_append_slashes a 1

/-- The parts of a list of parts that is written as a path. -/
theorem parts_ofParts {ps : List String} (h : ∀ p ∈ ps, Path.IsPart p) :
    parts ("/" ++ Text.join "/" ps) = ps := by
  have hjoin : parts (Text.join "/" ps) = ps := by
    induction ps with
    | nil => exact parts_empty
    | cons p ps ih =>
      cases ps with
      | nil => exact parts_of_isPart (h p List.mem_cons_self)
      | cons q ps =>
        have hcons : Text.join "/" (p :: q :: ps) = p ++ "/" ++ Text.join "/" (q :: ps) :=
          String.intercalate_cons_cons
        rw [hcons, parts_slash, parts_of_isPart (h p List.mem_cons_self),
          ih fun p' hp' => h p' (List.mem_cons_of_mem _ hp')]
        rfl
  have hslash := parts_slash "" (Text.join "/" ps)
  rwa [String.empty_append, parts_empty, List.nil_append, hjoin] at hslash

/-- A path that is written with parts ends with the last of them, and so not with a slash. -/
theorem not_endsWith_ofParts {ps : List String} {last : String} (h : Path.IsPart last) :
    endsWith ("/" ++ Text.join "/" (ps ++ [last])) "/" ≠ true := by
  obtain ⟨front, hfront⟩ : ∃ front, Text.join "/" (ps ++ [last]) = front ++ last := by
    induction ps with
    | nil => exact ⟨"", rfl⟩
    | cons p ps ih =>
      obtain ⟨front, hfront⟩ := ih
      refine ⟨p ++ "/" ++ front, ?_⟩
      cases hps : ps ++ [last] with
      | nil => exact absurd hps (List.append_ne_nil_of_right_ne_nil _ (List.cons_ne_nil _ _))
      | cons q qs =>
        rw [hps] at hfront
        have hcons : Text.join "/" (p :: q :: qs) = p ++ "/" ++ Text.join "/" (q :: qs) :=
          String.intercalate_cons_cons
        rw [List.cons_append, hps, hcons, hfront]
        exact String.append_assoc.symm
  rw [hfront, ← String.append_assoc, endsWith_append h.1]
  exact h.not_endsWith

/-! ## The parts of joined paths -/

theorem parts_join {a b : String} (h : startsWith b "/" ≠ true) :
    parts (Path.join a b) = parts a ++ parts b := by
  by_cases ha : a = ""
  · rw [ha, parts_empty, List.nil_append, Path.join_eq_right_iff.mpr (Or.inl rfl)]
  · obtain ⟨front, hjoin, rfl | rfl⟩ := Path.exists_join_slash ha h
    · rw [hjoin, parts_slash]
    · rw [hjoin, parts_slash, parts_append_slash]

/-- What is in front of a path depends on its parts and on whether it begins at the root. -/
theorem parts_join_congr {a b c : String} (hstart : startsWith b "/" = startsWith c "/")
    (hparts : parts b = parts c) : parts (Path.join a b) = parts (Path.join a c) := by
  by_cases hb : startsWith b "/" = true
  · rw [Path.join_of_slash hb, Path.join_of_slash (hstart ▸ hb), hparts]
  · rw [parts_join hb, parts_join (hstart ▸ hb), hparts]

theorem parts_join_join {a b c : String} (h : startsWith c "/" ≠ true) :
    parts (Path.join a (Path.join b c)) = parts (Path.join a b) ++ parts c := by
  by_cases hb : b = ""
  · have hempty : startsWith "" "/" ≠ true := by decide
    rw [hb, Path.join_eq_right_iff.mpr (Or.inl rfl), parts_join h, parts_join hempty, parts_empty,
      List.append_nil]
  · obtain ⟨between, hjoin, -⟩ := Path.exists_join_eq (a := b) h
    have hstart : startsWith (Path.join b c) "/" = startsWith b "/" := by
      rw [hjoin, startsWith_append hb]
    by_cases hslash : startsWith b "/" = true
    · rw [Path.join_of_slash hslash, Path.join_of_slash (hstart.trans hslash), parts_join h]
    · rw [parts_join hslash, parts_join (fun hbc => hslash (hstart ▸ hbc)), parts_join h,
        List.append_assoc]

theorem parts_join_joinAll {a b : String} {cs : List String}
    (h : ∀ c ∈ cs, startsWith c "/" ≠ true) :
    parts (Path.join a (Path.joinAll b cs)) = parts (Path.join a b) ++ cs.flatMap parts := by
  induction cs generalizing b with
  | nil => rw [List.flatMap_nil, List.append_nil]; rfl
  | cons c cs ih =>
    show parts (Path.join a (Path.joinAll (Path.join b c) cs)) = _
    rw [ih fun c' hc' => h c' (List.mem_cons_of_mem _ hc'), parts_join_join (h c List.mem_cons_self),
      List.append_assoc, List.flatMap_cons]

/-- Names that are joined to a path are its last parts. -/
theorem parts_join_names {a b : String} {ns : List String} (h : ∀ n ∈ ns, Path.IsPart n) :
    parts (Path.join a (Path.joinAll b ns)) = parts (Path.join a b) ++ ns := by
  rw [parts_join_joinAll fun n hn => (h n hn).not_startsWith]
  congr 1
  induction ns with
  | nil => rfl
  | cons n ns ih =>
    rw [List.flatMap_cons, parts_of_isPart (h n List.mem_cons_self),
      ih fun m hm => h m (List.mem_cons_of_mem _ hm), List.singleton_append]

/-- The directory of a file is reached by the parts in front of its name. -/
theorem parts_join_parent {a b name : String} (hb : b ≠ "") (hname : Path.IsPart name) :
    parts (Path.join a (Path.parent (Path.join b name))) = parts (Path.join a b) ∧
      Path.parent (Path.join b name) ≠ "" := by
  obtain ⟨front, hjoin, hfront⟩ := Path.exists_join_slash hb hname.not_startsWith
  obtain ⟨k, hparent, hne⟩ := Path.exists_parent_append front hname.2.2
  -- up to slashes at the end, the directory is what was joined to the name
  have hstart : startsWith (front ++ "/") "/" = startsWith b "/" := by
    rcases hfront with rfl | rfl
    · exact startsWith_append hb "/"
    · rfl
  have hparts : parts (front ++ "/") = parts b := by
    rcases hfront with rfl | rfl
    · exact parts_append_slash front
    · rfl
  rw [hparent] at hstart hparts
  rw [startsWith_append hne] at hstart
  rw [parts_append_slashes] at hparts
  rw [hjoin]
  exact ⟨parts_join_congr hstart hparts, hne⟩

end FileTree
end Remedy
