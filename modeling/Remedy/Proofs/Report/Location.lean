import Remedy.Path
import Remedy.Proofs.Text.Search
import Remedy.Proofs.Url.Escapes
import Remedy.Report.Location

/-!
# Paths inside an application

The path of a file inside an application is what follows one of the known roots. Only one root is taken
off, so what follows may still begin with a slash; joining such a path to a directory gives the path
alone.

Main results:

* `relative_slash_iff`: the paths of which a slash is left in front.
* `relative_unescape_iff`: reading the escapes of a path changes the path inside the application if
  there is any escape.
* `Path.join_eq_right_iff`, `Path.startsWith_join_iff`: when a directory is lost in joining, and when
  the joined path begins with it.
-/

namespace Remedy

/-! ## Beginnings and ends of texts -/

namespace Text

theorem startsWith_iff {s part : String} :
    startsWith s part = true ↔ ∃ rest, s = part ++ rest := by
  rw [startsWith, List.isPrefixOf_iff_prefix]
  constructor
  · rintro ⟨rest, hrest⟩
    refine ⟨String.ofList rest, ?_⟩
    rw [← String.toList_inj, String.toList_append, String.toList_ofList, hrest]
  · rintro ⟨rest, rfl⟩
    exact ⟨rest.toList, by rw [String.toList_append]⟩

theorem endsWith_iff {s part : String} : endsWith s part = true ↔ ∃ front, s = front ++ part := by
  rw [endsWith, List.isSuffixOf_iff_suffix]
  constructor
  · rintro ⟨front, hfront⟩
    refine ⟨String.ofList front, ?_⟩
    rw [← String.toList_inj, String.toList_append, String.toList_ofList, hfront]
  · rintro ⟨front, rfl⟩
    exact ⟨front.toList, by rw [String.toList_append]⟩

theorem dropFront?_eq_some_iff {s part rest : String} :
    dropFront? s part = some rest ↔ s = part ++ rest := by
  rw [dropFront?, Option.map_eq_some_iff, ← String.toList_inj, String.toList_append]
  constructor
  · rintro ⟨cs, hcs, rfl⟩
    rw [front?_eq_some_iff.mp hcs, String.toList_ofList]
  · intro hs
    exact ⟨rest.toList, front?_eq_some_iff.mpr hs, String.ofList_toList⟩

end Text

open Text

/-! ## Joining -/

namespace Path

theorem join_of_slash {a b : String} (h : startsWith b "/" = true) : join a b = b := by
  rw [join, if_pos h]

/-- A path without a slash in front is put behind the directory. -/
theorem exists_join_eq {a b : String} (h : startsWith b "/" ≠ true) :
    ∃ between, join a b = a ++ (between ++ b) ∧ (between = "" ↔ a = "" ∨ endsWith a "/" = true) := by
  rw [join, if_neg h]
  split
  · rename_i ha
    refine ⟨"", by simp, ?_⟩
    simpa using ha
  · rename_i ha
    refine ⟨"/", by simp [String.append_assoc], ?_⟩
    simpa using ha

/-- The directory is lost exactly if it is empty or the path begins with a slash. -/
theorem join_eq_right_iff {a b : String} : join a b = b ↔ a = "" ∨ startsWith b "/" = true := by
  by_cases hslash : startsWith b "/" = true
  · simp [join_of_slash hslash, hslash]
  · obtain ⟨between, hjoin, hbetween⟩ := exists_join_eq (a := a) hslash
    rw [or_iff_left hslash]
    constructor
    · -- nothing but the empty text can stand in front of a text and leave it as long as it is
      intro hsame
      have hlen := congrArg String.length (hjoin.symm.trans hsame)
      simp only [String.length_append] at hlen
      rw [← String.length_eq_zero_iff]
      omega
    · rintro rfl
      rw [hjoin, hbetween.mpr (Or.inl rfl)]
      simp

/-- The joined path begins with the directory unless the path begins with a slash and not with the
directory. -/
theorem startsWith_join_iff {a b : String} :
    startsWith (join a b) a = true ↔ startsWith b "/" ≠ true ∨ startsWith b a = true := by
  by_cases hslash : startsWith b "/" = true
  · simp [join_of_slash hslash, hslash]
  · obtain ⟨between, hjoin, -⟩ := exists_join_eq (a := a) hslash
    refine iff_of_true ?_ (Or.inl hslash)
    rw [hjoin]
    exact startsWith_iff.mpr ⟨_, rfl⟩

end Path

/-! ## Taking off a root -/

namespace Location

/-- A known root is taken off, or there is none. -/
theorem relative_cases (path : String) :
    (∃ root ∈ knownRoots, path = root ++ relative path) ∨
      (∀ root ∈ knownRoots, startsWith path root ≠ true) ∧ relative path = path := by
  cases hfound : knownRoots.findSome? (dropFront? path) with
  | some rest =>
    have hrelative : relative path = rest := by rw [relative, hfound, Option.getD_some]
    obtain ⟨root, hroot, hdrop⟩ := List.exists_of_findSome?_eq_some hfound
    exact Or.inl ⟨root, hroot, by rw [hrelative, ← dropFront?_eq_some_iff, hdrop]⟩
  | none =>
    refine Or.inr ⟨fun root hroot hstarts => ?_, by rw [relative, hfound, Option.getD_none]⟩
    obtain ⟨rest, hrest⟩ := startsWith_iff.mp hstarts
    have hnone := List.findSome?_eq_none_iff.mp hfound root hroot
    rw [dropFront?_eq_some_iff.mpr hrest] at hnone
    cases hnone

/-- A root that is more than a slash is taken off whole: none of the others is its beginning but the
slash, which is tried last. -/
theorem relative_root_append {root : String} (h : root ∈ knownRoots) (hlong : root ≠ "/")
    (rest : String) : relative (root ++ rest) = rest := by
  rw [relative, knownRoots]
  simp only [knownRoots, List.mem_cons, List.not_mem_nil, or_false] at h
  rcases h with rfl | rfl | rfl | rfl
  · simp [dropFront?, String.toList_append, front?]
  · simp [dropFront?, String.toList_append, front?]
  · simp [dropFront?, String.toList_append, front?]
  · exact absurd rfl hlong

/-- Behind a root with one more slash only that root is taken off. -/
theorem relative_root_slash {root : String} (h : root ∈ knownRoots) (rest : String) :
    relative (root ++ ("/" ++ rest)) = "/" ++ rest := by
  by_cases hlong : root = "/"
  · -- no longer root begins with two slashes, so the first of them is taken off
    rw [hlong, relative, knownRoots]
    simp [dropFront?, String.toList_append, front?]
  · exact relative_root_append h hlong _

/-- The path inside the application begins with a slash exactly if a known root is followed by one. -/
theorem relative_slash_iff {path : String} :
    startsWith (relative path) "/" = true ↔
      ∃ root ∈ knownRoots, startsWith path (root ++ "/") = true := by
  constructor
  · intro hslash
    obtain ⟨rest, hrest⟩ := startsWith_iff.mp hslash
    rcases relative_cases path with ⟨root, hroot, hpath⟩ | ⟨hnone, hself⟩
    · refine ⟨root, hroot, startsWith_iff.mpr ⟨rest, ?_⟩⟩
      rw [hpath, hrest, String.append_assoc]
    · -- a path that begins with a slash begins with the last root
      rw [hself] at hslash
      exact absurd hslash (hnone "/" (by decide))
  · rintro ⟨root, hroot, hstarts⟩
    obtain ⟨rest, rfl⟩ := startsWith_iff.mp hstarts
    rw [String.append_assoc, relative_root_slash hroot]
    exact startsWith_iff.mpr ⟨rest, rfl⟩

/-! ## Reading escapes before a root is taken off -/

theorem length_relative_le (path : String) : (relative path).length ≤ path.length := by
  rcases relative_cases path with ⟨root, -, hpath⟩ | ⟨-, hself⟩
  · have hlen := congrArg String.length hpath
    rw [String.length_append] at hlen
    omega
  · rw [hself]

/-- Of a path that begins with a root at least that much is taken off. -/
theorem length_relative_root_le {root : String} (h : root ∈ knownRoots) (rest : String) :
    (relative (root ++ rest)).length ≤ rest.length := by
  by_cases hslash : root = "/"
  · -- behind a slash a longer root may stand, and no root is shorter
    rcases relative_cases (root ++ rest) with ⟨root', hroot', hpath⟩ | ⟨hnone, -⟩
    · have hpositive : ∀ known ∈ knownRoots, 1 ≤ known.length := by decide
      have hlen := congrArg String.length hpath
      rw [String.length_append, String.length_append, hslash] at hlen
      have hone : "/".length = 1 := rfl
      have hlong := hpositive root' hroot'
      rw [hslash]
      omega
    · exact absurd (startsWith_iff.mpr ⟨rest, rfl⟩) (hnone root h)
  · rw [relative_root_append h hslash]

theorem unescape_root_append {root : String} (h : root ∈ knownRoots) (rest : String) :
    Url.unescape (root ++ rest) = root ++ Url.unescape rest := by
  have hplain : ∀ root ∈ knownRoots, Utf8.Ascii root.toList ∧ '%' ∉ root.toList := by decide
  exact Url.unescape_append (hplain root h).1 (hplain root h).2 rest

/-- Reading the escapes of a path changes the path inside the application exactly if it has any. -/
theorem relative_unescape_iff {path : String} :
    relative (Url.unescape path) = relative path ↔ ¬ Url.HasEscape path.toList := by
  constructor
  · intro hsame
    rcases relative_cases path with ⟨root, hroot, hpath⟩ | ⟨-, hself⟩
    · -- the root has no escape, so what follows it would have to be as long as before
      have hnone : ¬ Url.HasEscape (relative path).toList := by
        refine Url.not_hasEscape_of_length ?_
        calc (relative path).length
            = (relative (Url.unescape (root ++ relative path))).length := by rw [← hpath, hsame]
          _ = (relative (root ++ Url.unescape (relative path))).length := by
            rw [unescape_root_append hroot]
          _ ≤ (Url.unescape (relative path)).length := length_relative_root_le hroot _
      rw [← Url.unescape_eq_self_iff] at hnone ⊢
      rw [hpath, unescape_root_append hroot, hnone]
    · -- without a root nothing is taken off, so the whole path would have to be as long as before
      refine Url.not_hasEscape_of_length ?_
      rw [hself] at hsame
      calc path.length = (relative (Url.unescape path)).length := by rw [hsame]
        _ ≤ (Url.unescape path).length := length_relative_le _
  · intro hnone
    rw [Url.unescape_eq_self_iff.mpr hnone]

end Location
end Remedy
