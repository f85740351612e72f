import Remedy.Detection.Basic
import Mathlib.Data.List.Induction
import Mathlib.Data.List.Nodup
import Mathlib.Tactic.Tauto

/-!
# What detection by keys finds

Detection by keys puts the old incidents into a table by key and takes them out again as the new
incidents name their keys. The table keeps the last of several old incidents with one key, so what
is left at the end, the solved incidents, is given by two conditions: no new incident has the key,
and no later old incident has it.

Main results:

* `mem_byKey`: the table holds the last old incident of each key.
* `mem_naive_solved`: which old incidents count as solved.
* `naive_of_nodup`: what becomes of the incidents when no two old ones and no two new ones share a
  key: the result is a pair of filters.
* `naive_rel`: old incidents with the same keys are treated alike.
-/

namespace Remedy

/-- The key of an incident with its line as it is. -/
def IncidentRow.exactKey (r : IncidentRow) : IncidentKey :=
  ⟨r.placeKey, r.line⟩

theorem IncidentRow.key_eq_of_exactKey {r t : IncidentRow} (h : r.exactKey = t.exactKey) :
    r.key = t.key := by
  obtain ⟨hplace, hline⟩ := IncidentKey.mk.inj h
  rw [key, key, hplace, hline]

namespace Detection

/-! ## The table of old incidents -/

/-- Every row of a table stands under its own key, and no key stands there twice. -/
structure Keyed (table : ByKey) : Prop where
  own : ∀ e ∈ table, e.2.key = e.1
  distinct : (table.map Prod.fst).Nodup

theorem Keyed.nil : Keyed [] :=
  ⟨by simp, by simp⟩

theorem mem_keys_putRow {table : ByKey} {r : IncidentRow} {k : IncidentKey} :
    k ∈ (putRow table r).map Prod.fst ↔ k ∈ table.map Prod.fst ∨ k = r.key := by
  induction table with
  | nil => simp [putRow]
  | cons e rest ih =>
    obtain ⟨k', old⟩ := e
    rw [putRow]
    split
    · next heq =>
      simp only [List.map_cons, List.mem_cons]
      rw [heq]
      tauto
    · simp only [List.map_cons, List.mem_cons, ih]
      tauto

theorem Keyed.putRow {table : ByKey} (h : Keyed table) (r : IncidentRow) :
    Keyed (putRow table r) := by
  induction table with
  | nil => exact ⟨by simp [Detection.putRow], by simp [Detection.putRow]⟩
  | cons e rest ih =>
    obtain ⟨k, old⟩ := e
    obtain ⟨hown, hdistinct⟩ := h
    rw [List.map_cons, List.nodup_cons] at hdistinct
    have hrest : Keyed rest := ⟨fun e he => hown e (List.mem_cons_of_mem _ he), hdistinct.2⟩
    rw [Detection.putRow]
    split
    · next heq =>
      refine ⟨?_, by rw [List.map_cons, List.nodup_cons]; exact hdistinct⟩
      intro e he
      rcases List.mem_cons.mp he with rfl | he
      · exact heq.symm
      · exact hrest.own e he
    · next hne =>
      have hput := ih hrest
      refine ⟨?_, ?_⟩
      · intro e he
        rcases List.mem_cons.mp he with rfl | he
        · exact hown _ (List.mem_cons_self ..)
        · exact hput.own e he
      · rw [List.map_cons, List.nodup_cons]
        refine ⟨?_, hput.distinct⟩
        rw [mem_keys_putRow]
        rintro (hin | heq)
        · exact hdistinct.1 hin
        · exact hne heq

/-- Putting a row into a table replaces the row of its key and keeps all others. -/
theorem mem_putRow {table : ByKey} (h : Keyed table) {r : IncidentRow}
    {e : IncidentKey × IncidentRow} :
    e ∈ putRow table r ↔ e = (r.key, r) ∨ (e ∈ table ∧ e.1 ≠ r.key) := by
  induction table with
  | nil => simp [putRow]
  | cons f rest ih =>
    obtain ⟨k, old⟩ := f
    obtain ⟨hown, hdistinct⟩ := h
    rw [List.map_cons, List.nodup_cons] at hdistinct
    have hrest : Keyed rest := ⟨fun e he => hown e (List.mem_cons_of_mem _ he), hdistinct.2⟩
    rw [putRow]
    split
    · next heq =>
      subst heq
      have hother : e ∈ rest → e.1 ≠ r.key := by
        intro he heq
        exact hdistinct.1 (List.mem_map.mpr ⟨e, he, heq⟩)
      simp only [List.mem_cons]
      constructor
      · rintro (rfl | he)
        · exact Or.inl rfl
        · exact Or.inr ⟨Or.inr he, hother he⟩
      · rintro (rfl | ⟨rfl | he, hne⟩)
        · exact Or.inl rfl
        · exact absurd rfl hne
        · exact Or.inr he
    · next hne =>
      simp only [List.mem_cons, ih hrest]
      constructor
      · rintro (rfl | rfl | ⟨he, hk⟩)
        · exact Or.inr ⟨Or.inl rfl, hne⟩
        · exact Or.inl rfl
        · exact Or.inr ⟨Or.inr he, hk⟩
      · rintro (rfl | ⟨rfl | he, hk⟩)
        · exact Or.inr (Or.inl rfl)
        · exact Or.inl rfl
        · exact Or.inr (Or.inr ⟨he, hk⟩)

theorem byKey_append_singleton (rows : List IncidentRow) (r : IncidentRow) :
    byKey (rows ++ [r]) = putRow (byKey rows) r := by
  rw [byKey, byKey, List.foldl_append]
  rfl

theorem keyed_byKey (rows : List IncidentRow) : Keyed (byKey rows) := by
  induction rows using List.reverseRecOn with
  | nil => exact Keyed.nil
  | append_singleton rows r ih =>
    rw [byKey_append_singleton]
    exact ih.putRow r

/-- The row is the last one of its key. -/
def LastOfKey (rows : List IncidentRow) (r : IncidentRow) : Prop :=
  ∃ before after, rows = before ++ r :: after ∧ ∀ x ∈ after, x.key ≠ r.key

theorem LastOfKey.mem {rows : List IncidentRow} {r : IncidentRow} (h : LastOfKey rows r) :
    r ∈ rows := by
  obtain ⟨before, after, rfl, -⟩ := h
  simp

theorem lastOfKey_append_singleton {rows : List IncidentRow} {r x : IncidentRow} :
    LastOfKey (rows ++ [r]) x ↔ x = r ∨ (LastOfKey rows x ∧ x.key ≠ r.key) := by
  constructor
  · rintro ⟨before, after, heq, hafter⟩
    rcases List.eq_nil_or_concat after with rfl | ⟨after', y, rfl⟩
    · obtain ⟨-, hx⟩ := List.append_inj' heq rfl
      simp only [List.cons.injEq, and_true] at hx
      exact Or.inl hx.symm
    · rw [List.concat_eq_append, ← List.cons_append, ← List.append_assoc] at heq
      obtain ⟨hrows, hy⟩ := List.append_inj' heq rfl
      simp only [List.cons.injEq, and_true] at hy
      subst hy
      refine Or.inr ⟨⟨before, after', hrows, fun z hz => hafter z ?_⟩, ?_⟩
      · simp [hz]
      · exact fun hk => hafter r (by simp) hk.symm
  · rintro (rfl | ⟨⟨before, after, rfl, hafter⟩, hne⟩)
    · exact ⟨rows, [], rfl, by simp⟩
    · refine ⟨before, after ++ [r], by simp, ?_⟩
      intro z hz
      rcases List.mem_append.mp hz with hz | hz
      · exact hafter z hz
      · rw [List.mem_singleton] at hz
        exact hz ▸ hne.symm

/-- The table holds the last row of each key. -/
theorem mem_byKey {rows : List IncidentRow} {e : IncidentKey × IncidentRow} :
    e ∈ byKey rows ↔ e.2.key = e.1 ∧ LastOfKey rows e.2 := by
  induction rows using List.reverseRecOn with
  | nil => simp [byKey, LastOfKey]
  | append_singleton rows r ih =>
    rw [byKey_append_singleton, mem_putRow (keyed_byKey rows), ih, lastOfKey_append_singleton]
    obtain ⟨k, x⟩ := e
    simp only [Prod.mk.injEq]
    constructor
    · rintro (⟨rfl, rfl⟩ | ⟨⟨rfl, hlast⟩, hne⟩)
      · exact ⟨rfl, Or.inl rfl⟩
      · exact ⟨rfl, Or.inr ⟨hlast, hne⟩⟩
    · rintro ⟨rfl, rfl | ⟨hlast, hne⟩⟩
      · exact Or.inl ⟨rfl, rfl⟩
      · exact Or.inr ⟨⟨rfl, hlast⟩, hne⟩

/-! ## Taking rows out of the table -/

theorem takeRow_eq_some {table : ByKey} {k : IncidentKey} {r : IncidentRow} {left : ByKey}
    (htake : takeRow table k = some (r, left)) :
    (k, r) ∈ table ∧ left = table.filter fun e => e.1 != k := by
  rw [takeRow] at htake
  cases hlook : table.lookup k with
  | none => simp [hlook] at htake
  | some row =>
    simp only [hlook, Option.some.injEq, Prod.mk.injEq] at htake
    obtain ⟨rfl, rfl⟩ := htake
    obtain ⟨before, after, rfl, -⟩ := List.lookup_eq_some_iff.mp hlook
    exact ⟨by simp, rfl⟩

theorem takeRow_eq_none {table : ByKey} {k : IncidentKey} (htake : takeRow table k = none) :
    k ∉ table.map Prod.fst := by
  rw [takeRow] at htake
  cases hlook : table.lookup k with
  | some row => simp [hlook] at htake
  | none =>
    rw [List.lookup_eq_none_iff] at hlook
    intro hk
    obtain ⟨e, he, rfl⟩ := List.mem_map.mp hk
    simpa using hlook e he

/-- What one new row does to a match. -/
theorem matchRow_cases (m : ExactMatch) (row : IncidentRow) :
    (∃ old, (row.key, old) ∈ m.left ∧ matchRow m row =
      { m with found := m.found ++ [old], left := m.left.filter fun e => e.1 != row.key }) ∨
    (row.key ∉ m.left.map Prod.fst ∧
      matchRow m row = { m with unmatched := m.unmatched ++ [row] }) := by
  rw [matchRow]
  cases htake : takeRow m.left row.key with
  | none => exact Or.inr ⟨takeRow_eq_none htake, rfl⟩
  | some taken =>
    obtain ⟨old, left⟩ := taken
    obtain ⟨hmem, rfl⟩ := takeRow_eq_some htake
    exact Or.inl ⟨old, hmem, rfl⟩

/-- After matching, the table has lost exactly the keys of the new rows. -/
theorem left_foldl_matchRow (new : List IncidentRow) (m : ExactMatch) :
    (new.foldl matchRow m).left = m.left.filter fun e => e.1 ∉ new.map IncidentRow.key := by
  induction new generalizing m with
  | nil => simp
  | cons row rest ih =>
    rw [List.foldl_cons, ih]
    rcases matchRow_cases m row with ⟨old, -, heq⟩ | ⟨hnot, heq⟩
    · rw [heq, List.filter_filter]
      apply List.filter_congr
      intro e _
      rw [Bool.eq_iff_iff]
      simp
      tauto
    · rw [heq]
      apply List.filter_congr
      intro e he
      have hne : e.1 ≠ row.key := fun hk => hnot (hk ▸ List.mem_map_of_mem he)
      simp [hne]

/-- Only rows of the table are found. -/
theorem found_foldl_matchRow (new : List IncidentRow) (m : ExactMatch) :
    ∀ r ∈ (new.foldl matchRow m).found, r ∈ m.found ∨ r ∈ m.left.map Prod.snd := by
  induction new generalizing m with
  | nil => exact fun r hr => Or.inl hr
  | cons row rest ih =>
    intro r hr
    have hstep := ih (matchRow m row) r hr
    rcases matchRow_cases m row with ⟨old, hold, heq⟩ | ⟨-, heq⟩
    · rw [heq] at hstep
      rcases hstep with hfound | hleft
      · rcases List.mem_append.mp hfound with hfound | hfound
        · exact Or.inl hfound
        · rw [List.mem_singleton] at hfound
          exact Or.inr (List.mem_map.mpr ⟨_, hold, hfound.symm⟩)
      · obtain ⟨e, he, rfl⟩ := List.mem_map.mp hleft
        exact Or.inr (List.mem_map_of_mem (List.mem_of_mem_filter he))
    · rw [heq] at hstep
      exact hstep

/-- New rows with different keys are unmatched exactly when the table does not have their key. -/
theorem unmatched_foldl_matchRow (new : List IncidentRow) (m : ExactMatch)
    (hnew : (new.map IncidentRow.key).Nodup) :
    (new.foldl matchRow m).unmatched =
      m.unmatched ++ new.filter fun r => r.key ∉ m.left.map Prod.fst := by
  induction new generalizing m with
  | nil => simp
  | cons row rest ih =>
    rw [List.map_cons, List.nodup_cons] at hnew
    rw [List.foldl_cons, ih _ hnew.2]
    rcases matchRow_cases m row with ⟨old, hold, heq⟩ | ⟨hnot, heq⟩
    · -- the key of the row leaves the table, but no other new row has it
      have hin : row.key ∈ m.left.map Prod.fst := List.mem_map.mpr ⟨_, hold, rfl⟩
      rw [heq, List.filter_cons_of_neg (by simpa using hin)]
      congr 1
      apply List.filter_congr
      intro r hr
      have hne : r.key ≠ row.key := fun hk => hnew.1 (hk ▸ List.mem_map_of_mem hr)
      rw [Bool.eq_iff_iff]
      simp only [List.mem_map, List.mem_filter, decide_eq_true_eq, not_exists, not_and]
      constructor
      · intro hout e he hk
        exact hout e ⟨he, by simpa [hk] using hne⟩ hk
      · rintro hout e ⟨he, -⟩
        exact hout e he
    · rw [heq, List.filter_cons_of_pos (by simpa using hnot)]
      simp

/-! ## The result of detection -/

/-- An old incident is solved when no new incident has its key and no later old one has. -/
theorem mem_naive_solved {old new : List IncidentRow} {r : IncidentRow} :
    r ∈ (naive old new).solved ↔ LastOfKey old r ∧ r.key ∉ new.map IncidentRow.key := by
  show r ∈ ((new.foldl matchRow { left := byKey old }).left).map Prod.snd ↔ _
  rw [left_foldl_matchRow]
  constructor
  · intro hr
    obtain ⟨e, he, rfl⟩ := List.mem_map.mp hr
    obtain ⟨hmem, hkey⟩ := List.mem_filter.mp he
    obtain ⟨hown, hlast⟩ := mem_byKey.mp hmem
    exact ⟨hlast, by simpa [hown] using hkey⟩
  · rintro ⟨hlast, hkey⟩
    refine List.mem_map.mpr ⟨(r.key, r), List.mem_filter.mpr ⟨?_, by simpa using hkey⟩, rfl⟩
    exact mem_byKey.mpr ⟨rfl, hlast⟩

/-- Every unsolved incident is an old one. -/
theorem mem_of_mem_naive_unsolved {old new : List IncidentRow} {r : IncidentRow}
    (h : r ∈ (naive old new).unsolved) : r ∈ old := by
  rcases found_foldl_matchRow new { left := byKey old } r h with hr | hr
  · simp at hr
  · obtain ⟨e, he, rfl⟩ := List.mem_map.mp hr
    exact (mem_byKey.mp he).2.mem

theorem putRow_of_notMem {table : ByKey} {r : IncidentRow} (hr : r.key ∉ table.map Prod.fst) :
    putRow table r = table ++ [(r.key, r)] := by
  induction table with
  | nil => rfl
  | cons e rest ih =>
    obtain ⟨k, old⟩ := e
    rw [List.map_cons, List.mem_cons, not_or] at hr
    rw [putRow, if_neg (Ne.symm hr.1), ih hr.2]
    rfl

theorem byKey_of_nodup {rows : List IncidentRow} (h : (rows.map IncidentRow.key).Nodup) :
    byKey rows = rows.map fun r => (r.key, r) := by
  induction rows using List.reverseRecOn with
  | nil => rfl
  | append_singleton rows r ih =>
    rw [List.map_append, List.nodup_append] at h
    have hr : r.key ∉ rows.map IncidentRow.key := fun hin => h.2.2 r.key hin r.key (by simp) rfl
    rw [byKey_append_singleton, ih h.1,
      putRow_of_notMem (by simpa [List.map_map, Function.comp_def] using hr)]
    simp

/-- When keys are not repeated, the new incidents whose key is not old are fresh, and the old ones
whose key is not new are solved, both in their order. -/
theorem naive_of_nodup {old new : List IncidentRow} (hold : (old.map IncidentRow.key).Nodup)
    (hnew : (new.map IncidentRow.key).Nodup) :
    (naive old new).fresh = new.filter (fun r => r.key ∉ old.map IncidentRow.key) ∧
    (naive old new).solved = old.filter fun r => r.key ∉ new.map IncidentRow.key := by
  have hkeys : (byKey old).map Prod.fst = old.map IncidentRow.key := by
    rw [byKey_of_nodup hold, List.map_map]
    rfl
  constructor
  · show (new.foldl matchRow { left := byKey old }).unmatched = _
    rw [unmatched_foldl_matchRow new _ hnew]
    simp only [List.nil_append, hkeys]
  · show ((new.foldl matchRow { left := byKey old }).left).map Prod.snd = _
    rw [left_foldl_matchRow, byKey_of_nodup hold, List.filter_map, List.map_map]
    simp [Function.comp_def]

/-! ## Rows that share their keys -/

section Alike

/-- Tables with related rows under the same keys. -/
abbrev TablesAlike (R : IncidentRow → IncidentRow → Prop) (table table' : ByKey) : Prop :=
  List.Forall₂ (fun e e' => e.1 = e'.1 ∧ R e.2 e'.2) table table'

variable {R : IncidentRow → IncidentRow → Prop} (hkey : ∀ {r u}, R r u → r.key = u.key)

include hkey in
theorem putRow_rel {table table' : ByKey} {r r' : IncidentRow}
    (h : TablesAlike R table table') (hr : R r r') :
    TablesAlike R (putRow table r) (putRow table' r') := by
  induction h with
  | nil => exact .cons ⟨hkey hr, hr⟩ .nil
  | @cons e e' rest rest' he hrest ih =>
    obtain ⟨k, old⟩ := e
    obtain ⟨k', old'⟩ := e'
    obtain ⟨rfl, hold⟩ : k = k' ∧ R old old' := he
    rw [putRow, putRow, ← hkey hr]
    split
    · exact .cons ⟨rfl, hr⟩ hrest
    · exact .cons ⟨rfl, hold⟩ ih

theorem takeRow_rel {table table' : ByKey} (h : TablesAlike R table table') (k : IncidentKey) :
    (takeRow table k = none ∧ takeRow table' k = none) ∨
      ∃ r r' left left', takeRow table k = some (r, left) ∧ takeRow table' k = some (r', left') ∧
        R r r' ∧ TablesAlike R left left' := by
  have hlookup : (table.lookup k = none ∧ table'.lookup k = none) ∨
      ∃ r r', table.lookup k = some r ∧ table'.lookup k = some r' ∧ R r r' := by
    induction h with
    | nil => exact .inl ⟨rfl, rfl⟩
    | @cons e e' rest rest' he _ ih =>
      obtain ⟨k₁, r⟩ := e
      obtain ⟨k₂, r'⟩ := e'
      obtain ⟨rfl, hr⟩ : k₁ = k₂ ∧ R r r' := he
      rw [List.lookup_cons, List.lookup_cons]
      cases k == k₁ with
      | true => exact .inr ⟨r, r', rfl, rfl, hr⟩
      | false => exact ih
  rcases hlookup with ⟨hnone, hnone'⟩ | ⟨r, r', hsome, hsome', hr⟩
  · rw [takeRow, takeRow, hnone, hnone']
    exact .inl ⟨rfl, rfl⟩
  · rw [takeRow, takeRow, hsome, hsome']
    refine .inr ⟨r, r', _, _, rfl, rfl, hr, ?_⟩
    refine List.rel_filter (fun e e' he => ?_) h
    show (e.1 != k) = true ↔ (e'.1 != k) = true
    rw [he.1]

/-- Two matchings that have come equally far, with related old rows. -/
structure MatchedAlike (R : IncidentRow → IncidentRow → Prop) (m m' : ExactMatch) : Prop where
  found : List.Forall₂ R m.found m'.found
  unmatched : m.unmatched = m'.unmatched
  left : TablesAlike R m.left m'.left

theorem MatchedAlike.step {m m' : ExactMatch} (h : MatchedAlike R m m') (row : IncidentRow) :
    MatchedAlike R (matchRow m row) (matchRow m' row) := by
  rw [matchRow, matchRow]
  rcases takeRow_rel h.left row.key with
    ⟨hnone, hnone'⟩ | ⟨r, r', left, left', hsome, hsome', hr, hleft⟩
  · rw [hnone, hnone']
    exact ⟨h.found, congrArg (· ++ [row]) h.unmatched, h.left⟩
  · rw [hsome, hsome']
    exact ⟨List.rel_append h.found (.cons hr .nil), h.unmatched, hleft⟩

include hkey in
/-- Detection by keys treats old rows with the same keys alike. -/
theorem naive_rel {old old' : List IncidentRow} (h : List.Forall₂ R old old')
    (new : List IncidentRow) :
    (naive old new).fresh = (naive old' new).fresh ∧
    List.Forall₂ R (naive old new).unsolved (naive old' new).unsolved ∧
    List.Forall₂ R (naive old new).solved (naive old' new).solved := by
  have htable : TablesAlike R (byKey old) (byKey old') :=
    List.rel_foldl (P := TablesAlike R) (R := R) (fun _ _ ht _ _ hr => putRow_rel hkey ht hr) .nil h
  have hstart : MatchedAlike R { left := byKey old } { left := byKey old' } := ⟨.nil, rfl, htable⟩
  have hall : MatchedAlike R (matchExactly old new) (matchExactly old' new) := by
    rw [matchExactly, matchExactly]
    generalize ({ left := byKey old } : ExactMatch) = m at hstart ⊢
    generalize ({ left := byKey old' } : ExactMatch) = m' at hstart ⊢
    induction new generalizing m m' with
    | nil => exact hstart
    | cons row rest ih => exact ih _ _ (hstart.step row)
  refine ⟨hall.unmatched, hall.found, ?_⟩
  show List.Forall₂ R (List.map Prod.snd _) (List.map Prod.snd _)
  rw [List.forall₂_map_left_iff, List.forall₂_map_right_iff]
  exact hall.left.imp fun _ _ he => he.2

end Alike

end Detection
end Remedy
