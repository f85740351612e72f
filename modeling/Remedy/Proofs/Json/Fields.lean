import Remedy.Json.Basic
import Mathlib.Data.List.Nodup

/-!
# Entries of objects

How looking up, setting and listing the entries of an object go together. Setting changes what is
found under one key only; a key that is new comes last, so entries whose keys all differ are built by
setting them one after the other.

Main results:

* `get?_set`: what is found after an entry has been set.
* `set_of_notMem`: an entry under a new key comes last.
* `ofPairs_of_nodup`: entries whose keys all differ are taken as they are.
* `nodup_keys_ofPairs`: whatever is set one after the other, no key is there twice.
-/

namespace Remedy.Fields

theorem get?_nil (key : String) : get? [] key = none := rfl

theorem get?_cons (k : String) (v : Json) (rest : Fields) (key : String) :
    get? ((k, v) :: rest) key = if key = k then some v else get? rest key := by
  unfold get?
  rw [List.lookup_cons]
  by_cases h : key = k
  · simp [h]
  · rw [beq_false_of_ne h, if_neg h]

theorem keys_cons (k : String) (v : Json) (rest : Fields) :
    keys ((k, v) :: rest) = k :: keys rest := rfl

theorem get?_eq_none_iff {fields : Fields} {key : String} :
    fields.get? key = none ↔ key ∉ fields.keys := by
  induction fields with
  | nil => simp [get?_nil, keys]
  | cons e rest ih =>
    obtain ⟨k, v⟩ := e
    rw [get?_cons, keys_cons, List.mem_cons, not_or, ← ih]
    by_cases h : key = k
    · simp [h]
    · simp [h]

theorem has_iff {fields : Fields} {key : String} : fields.has key = true ↔ key ∈ fields.keys := by
  unfold has
  rw [Option.isSome_iff_ne_none, ne_eq, show List.lookup key fields = fields.get? key from rfl,
    get?_eq_none_iff, not_not]

theorem set_cons (k : String) (v : Json) (rest : Fields) (key : String) (value : Json) :
    set ((k, v) :: rest) key value =
      if k = key then (k, value) :: rest else (k, v) :: set rest key value := rfl

/-- Setting an entry changes what is found under its key and under no other. -/
theorem get?_set (fields : Fields) (key : String) (value : Json) (other : String) :
    (fields.set key value).get? other = if other = key then some value else fields.get? other := by
  induction fields with
  | nil => rw [set, get?_cons]
  | cons e rest ih =>
    obtain ⟨k, v⟩ := e
    rw [set_cons]
    by_cases hk : k = key
    · -- the entry is there: it keeps its place
      rw [if_pos hk, get?_cons, get?_cons, hk]
      split <;> rfl
    · rw [if_neg hk, get?_cons, get?_cons, ih]
      by_cases hother : other = k
      · have hne : other ≠ key := by rw [hother]; exact hk
        rw [if_pos hother, if_neg hne, if_pos hother]
      · rw [if_neg hother, if_neg hother]

theorem mem_keys_set {fields : Fields} {key : String} {value : Json} {k : String} :
    k ∈ (fields.set key value).keys ↔ k ∈ fields.keys ∨ k = key := by
  rw [← not_iff_not, ← get?_eq_none_iff, get?_set, not_or, ← get?_eq_none_iff]
  by_cases h : k = key
  · simp [h]
  · simp [h]

theorem mem_of_mem_set {fields : Fields} {key : String} {value : Json} {e : String × Json}
    (h : e ∈ fields.set key value) : e.2 = value ∨ e ∈ fields := by
  induction fields with
  | nil =>
    rw [set, List.mem_singleton] at h
    exact .inl (by rw [h])
  | cons x rest ih =>
    obtain ⟨k, v⟩ := x
    rw [set_cons] at h
    by_cases hk : k = key
    · rw [if_pos hk] at h
      rcases List.mem_cons.mp h with rfl | hrest
      · exact .inl rfl
      · exact .inr (List.mem_cons_of_mem _ hrest)
    · rw [if_neg hk] at h
      rcases List.mem_cons.mp h with rfl | hrest
      · exact .inr List.mem_cons_self
      · exact (ih hrest).imp id fun hin => List.mem_cons_of_mem _ hin

/-- An entry under a key that is not there comes after all others. -/
theorem set_of_notMem {fields : Fields} {key : String} (h : key ∉ fields.keys) (value : Json) :
    fields.set key value = fields ++ [(key, value)] := by
  induction fields with
  | nil => rfl
  | cons e rest ih =>
    obtain ⟨k, v⟩ := e
    rw [keys_cons, List.mem_cons, not_or] at h
    rw [set_cons, if_neg (fun hk => h.1 hk.symm), ih h.2, List.cons_append]

theorem foldl_set_of_nodup (pairs acc : Fields) (h : ((acc ++ pairs).map Prod.fst).Nodup) :
    pairs.foldl (fun acc e => Fields.set acc e.1 e.2) acc = acc ++ pairs := by
  induction pairs generalizing acc with
  | nil => simp
  | cons e rest ih =>
    have hnew : e.1 ∉ acc.keys := by
      rw [List.map_append, List.map_cons, List.nodup_append] at h
      exact fun hin => h.2.2 e.1 hin e.1 List.mem_cons_self rfl
    have happ : acc ++ e :: rest = (acc ++ [e]) ++ rest := by simp
    rw [List.foldl_cons, set_of_notMem hnew, ih (acc ++ [e]) (happ ▸ h), happ]

/-- Entries whose keys all differ are taken as they are. -/
theorem ofPairs_of_nodup {pairs : Fields} (h : (pairs.map Prod.fst).Nodup) :
    ofPairs pairs = pairs := by
  have hfold := foldl_set_of_nodup pairs [] (by simpa using h)
  simpa [ofPairs] using hfold

theorem nodup_keys_set {fields : Fields} (h : fields.keys.Nodup) (key : String) (value : Json) :
    (fields.set key value).keys.Nodup := by
  induction fields with
  | nil => exact List.nodup_singleton key
  | cons e rest ih =>
    obtain ⟨k, v⟩ := e
    rw [keys_cons, List.nodup_cons] at h
    rw [set_cons]
    by_cases hk : k = key
    · rw [if_pos hk, keys_cons]
      exact List.nodup_cons.mpr h
    · -- the rest gets no other key than the one that is set
      rw [if_neg hk, keys_cons, List.nodup_cons, mem_keys_set]
      exact ⟨fun hin => hin.elim h.1 hk, ih h.2⟩

theorem nodup_keys_foldl_set {acc : Fields} (h : acc.keys.Nodup) (pairs : Fields) :
    (pairs.foldl (fun acc e => Fields.set acc e.1 e.2) acc).keys.Nodup := by
  induction pairs generalizing acc with
  | nil => exact h
  | cons e rest ih => exact ih (nodup_keys_set h e.1 e.2)

/-- Entries that are set one after the other have no key twice. -/
theorem nodup_keys_ofPairs (pairs : Fields) : (ofPairs pairs).keys.Nodup :=
  nodup_keys_foldl_set (show (keys []).Nodup from List.nodup_nil) pairs

theorem mem_of_mem_foldl_set {pairs acc : Fields} {e : String × Json}
    (h : e ∈ pairs.foldl (fun acc e => Fields.set acc e.1 e.2) acc) :
    e ∈ acc ∨ ∃ p ∈ pairs, p.2 = e.2 := by
  induction pairs generalizing acc with
  | nil => exact .inl h
  | cons p rest ih =>
    rcases ih h with hacc | ⟨p', hp', hvalue⟩
    · rcases mem_of_mem_set hacc with hvalue | hacc
      · exact .inr ⟨p, List.mem_cons_self, hvalue.symm⟩
      · exact .inl hacc
    · exact .inr ⟨p', List.mem_cons_of_mem _ hp', hvalue⟩

/-- Every value is one that was set. -/
theorem mem_of_mem_ofPairs {pairs : Fields} {e : String × Json} (h : e ∈ ofPairs pairs) :
    ∃ p ∈ pairs, p.2 = e.2 := by
  rcases mem_of_mem_foldl_set h with hnil | hpair
  · cases hnil
  · exact hpair

end Remedy.Fields
