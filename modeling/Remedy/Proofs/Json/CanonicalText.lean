import Remedy.Proofs.Json.DeepSort
import Remedy.Proofs.Json.Fields
import Remedy.Proofs.Json.Reordered
import Remedy.Proofs.Json.RoundTrip

/-!
# Values and their canonical texts

The canonical text of a value is written with the entries of every object in the order of their keys.
Values that differ in the order of their entries only have the same text, and no other values have: the
text can be read back, and what is read is the value with its keys in order.

Main results:

* `proper_of_parse?`: no object in what is read has a key twice.
* `sortKeys_eq_iff`: two values are the same with their keys in order exactly if one is the other up to
  the order of entries.
* `canonicalText_eq_iff`: two values have one canonical text exactly if one is the other up to the order
  of entries.
-/

namespace Remedy.Json

/-! ## What is read -/

namespace Reader

theorem proper_unsigned {negative : Bool} {cs rest : List Char} {v : Json}
    (h : unsigned negative cs = some (v, rest)) : v.proper = true := by
  unfold unsigned at h
  obtain ⟨⟨whole, after⟩, -, hv⟩ := Option.map_eq_some_iff.mp h
  dsimp only at hv
  -- a number without a fraction and without an exponent is whole, every other one is a double
  rcases hfrac : fraction? after with _ | ⟨frac, tail⟩
  · rw [hfrac] at hv
    rcases hexp : exponent? after with _ | ⟨exp, tail⟩
    · rw [hexp] at hv
      cases hv
      rfl
    · rw [hexp] at hv
      cases hv
      rfl
  · rw [hfrac] at hv
    cases hv
    rfl

theorem proper_of_word {w cs rest : List Char} {x v : Json} (hx : x.proper = true)
    (h : (word w cs).map (x, ·) = some (v, rest)) : v.proper = true := by
  obtain ⟨_, -, hv⟩ := Option.map_eq_some_iff.mp h
  cases hv
  exact hx

theorem proper_scalar {cs rest : List Char} {v : Json} (h : scalar cs = some (v, rest)) :
    v.proper = true := by
  unfold scalar at h
  -- six words, and two ways to a number
  split at h
  · exact proper_of_word rfl h
  · exact proper_of_word rfl h
  · exact proper_of_word rfl h
  · exact proper_of_word rfl h
  · exact proper_of_word rfl h
  · exact proper_of_word rfl h
  · exact proper_unsigned h
  · exact proper_unsigned h

/-- What is read with so much fuel has no key twice. -/
structure ReadsProper (fuel : Nat) : Prop where
  ofValue : ∀ {cs v rest}, value fuel cs = some (v, rest) → v.proper = true
  ofItems : ∀ {cs xs rest}, items fuel cs = some (xs, rest) → ∀ x ∈ xs, x.proper = true
  ofMembers : ∀ {cs ms rest}, members fuel cs = some (ms, rest) → ∀ e ∈ ms, e.2.proper = true

section Step

variable {fuel : Nat} {cs rest : List Char} (ih : ReadsProper fuel)

include ih

theorem proper_value_step {v : Json} (h : value (fuel + 1) cs = some (v, rest)) :
    v.proper = true := by
  unfold value at h
  -- a text, a list, an object, or a word or number
  split at h
  · obtain ⟨_, -, hv⟩ := Option.map_eq_some_iff.mp h
    cases hv
    rfl
  · split at h
    · cases h
      rfl
    · obtain ⟨⟨xs, _⟩, hxs, hv⟩ := Option.map_eq_some_iff.mp h
      cases hv
      exact proper_arr.mpr (ih.ofItems hxs)
  · split at h
    · cases h
      rfl
    · obtain ⟨⟨ms, _⟩, hms, hv⟩ := Option.map_eq_some_iff.mp h
      cases hv
      -- entries are set one after the other, and a key that is repeated keeps its last value
      refine proper_obj.mpr ⟨Fields.nodup_keys_ofPairs ms, fun e he => ?_⟩
      obtain ⟨p, hp, heq⟩ := Fields.mem_of_mem_ofPairs he
      exact heq ▸ ih.ofMembers hms p hp
  · exact proper_scalar h

theorem proper_items_step {xs : List Json} (h : items (fuel + 1) cs = some (xs, rest)) :
    ∀ x ∈ xs, x.proper = true := by
  rw [items] at h
  obtain ⟨⟨x, after⟩, hx, h⟩ := Option.bind_eq_some_iff.mp h
  dsimp only at h
  -- more items, the end, or neither
  split at h
  · obtain ⟨⟨xs', _⟩, hxs', hv⟩ := Option.bind_eq_some_iff.mp h
    cases hv
    exact List.forall_mem_cons.mpr ⟨ih.ofValue hx, ih.ofItems hxs'⟩
  · cases h
    exact List.forall_mem_singleton.mpr (ih.ofValue hx)
  · cases h

theorem proper_members_step {ms : Fields} (h : members (fuel + 1) cs = some (ms, rest)) :
    ∀ e ∈ ms, e.2.proper = true := by
  unfold members at h
  split at h
  · obtain ⟨⟨key, after⟩, -, h⟩ := Option.bind_eq_some_iff.mp h
    dsimp only at h
    split at h
    · obtain ⟨⟨x, after'⟩, hx, h⟩ := Option.bind_eq_some_iff.mp h
      dsimp only at h
      split at h
      · obtain ⟨⟨ms', _⟩, hms', hv⟩ := Option.bind_eq_some_iff.mp h
        cases hv
        exact List.forall_mem_cons.mpr ⟨ih.ofValue hx, ih.ofMembers hms'⟩
      · cases h
        exact List.forall_mem_singleton.mpr (ih.ofValue hx)
      · cases h
    · cases h
  · cases h

end Step

/-- What is read has no key twice: a step of each reader keeps this for what it reads inside. -/
theorem readsProper (fuel : Nat) : ReadsProper fuel := by
  induction fuel with
  | zero => exact ⟨nofun, nofun, nofun⟩
  | succ fuel ih =>
    exact ⟨proper_value_step ih, proper_items_step ih, proper_members_step ih⟩

end Reader

/-- No object in what is read has a key twice. -/
theorem proper_of_parse? {s : String} {v : Json} (h : parse? s = some v) : v.proper = true := by
  unfold parse? at h
  dsimp only at h
  rcases hread : Reader.value (s.toList.length + 1) (Reader.skip s.toList) with _ | ⟨w, rest⟩
  · rw [hread] at h
    cases h
  · rw [hread] at h
    have hend : (if (Reader.skip rest).isEmpty then some w else none) = some v := h
    obtain ⟨-, hv⟩ := Option.ite_none_right_eq_some.mp hend
    cases hv
    exact (Reader.readsProper _).ofValue hread


/-! ## Keys in order -/

/-- An entry with the keys inside its value in order. -/
def sortKeysEntry (e : String × Json) : String × Json :=
  (e.1, e.2.sortKeys)

theorem sortKeysItems_eq (xs : List Json) : sortKeysItems xs = xs.map sortKeys := by
  induction xs with
  | nil => rfl
  | cons x xs ih => rw [sortKeysItems, ih, List.map_cons]

theorem sortKeysFields_eq (fields : Fields) : sortKeysFields fields = fields.map sortKeysEntry := by
  induction fields with
  | nil => rfl
  | cons e fields ih =>
    obtain ⟨k, v⟩ := e
    rw [sortKeysFields, ih, List.map_cons, sortKeysEntry]

theorem sortKeys_arr (xs : List Json) : sortKeys (.arr xs) = .arr (xs.map sortKeys) := by
  rw [sortKeys, sortKeysItems_eq]

theorem sortKeys_obj (fields : Fields) :
    sortKeys (.obj fields) = .obj (sortFields (fields.map sortKeysEntry)) := by
  rw [sortKeys, sortKeysFields_eq]

theorem sortKeys_number {v : Json} {q : Quantity} (h : v.quantity? = some q) : sortKeys v = v := by
  cases v <;> first | rfl | cases h

theorem keys_map_sortKeysEntry (fields : Fields) :
    (fields.map sortKeysEntry).map Prod.fst = fields.map Prod.fst := by
  rw [List.map_map]
  rfl

theorem proper_sortKeys {v : Json} (hp : v.proper = true) : v.sortKeys.proper = true := by
  induction v using valueInduction with
  | null => rfl
  | number v q hq =>
    rw [sortKeys_number hq]
    exact hp
  | str s => rfl
  | arr xs ih =>
    rw [sortKeys_arr, proper_arr, List.forall_mem_map]
    rw [proper_arr] at hp
    exact fun x hx => ih x hx (hp x hx)
  | obj fields ih =>
    have hperm := sortFields_perm (fields.map sortKeysEntry)
    rw [proper_obj] at hp
    rw [sortKeys_obj, proper_obj]
    refine ⟨?_, fun e he => ?_⟩
    · rw [(hperm.map Prod.fst).nodup_iff, keys_map_sortKeysEntry]
      exact hp.1
    · obtain ⟨e', he', rfl⟩ := List.mem_map.mp (hperm.mem_iff.mp he)
      exact ih e' he' (hp.2 e' he')

/-- Entries with different keys have one order. -/
theorem sortFields_eq_of_perm {xs ys : Fields} (hkeys : (xs.map Prod.fst).Nodup)
    (h : xs.Perm ys) : sortFields xs = sortFields ys := by
  have hxs := sortFields_perm xs
  have hys := sortFields_perm ys
  refine List.Perm.eq_of_pairwise (fun a b ha hb hab hba => ?_) (pairwise_sortFields xs)
    (pairwise_sortFields ys) (hxs.trans (h.trans hys.symm))
  rw [Text.precedes_iff] at hab hba
  -- keys that precede each other are the same, and there is one entry under a key
  have hkey : a.1 = b.1 := Text.codes_injective (le_antisymm hab hba)
  exact List.inj_on_of_nodup_map hkeys (hxs.mem_iff.mp ha) (h.mem_iff.mpr (hys.mem_iff.mp hb)) hkey

theorem quantity?_sortKeys (v : Json) : v.sortKeys.quantity? = v.quantity? := by
  cases v <;> rfl

/-- Values that are the same with their keys in order are the same up to the order of entries. -/
theorem reordered_of_sortKeys {a b : Json} (h : a.sortKeys = b.sortKeys) : Reordered Eq a b := by
  induction a using valueInduction generalizing b with
  | null => cases b <;> first | exact .same _ | cases h
  | number v q hq =>
    -- ordering keys makes a number of nothing else
    have hb : b.quantity? = some q := by
      rw [← quantity?_sortKeys, ← h, quantity?_sortKeys]
      exact hq
    rw [sortKeys_number hq, sortKeys_number hb] at h
    rw [h]
    exact .same b
  | str s =>
    cases b with
    | str t =>
      cases h
      exact .same _
    | _ => cases h
  | arr xs ih =>
    cases b with
    | arr ys =>
      rw [sortKeys_arr, sortKeys_arr, Json.arr.injEq, map_eq_map_iff_forall₂] at h
      have hinside := (List.forall₂_and_left _ _).mpr ⟨fun x hx y => @ih x hx y, h⟩
      exact .arr (hinside.imp fun x y hxy => hxy.1 y hxy.2) rfl
    | _ => cases h
  | obj xs ih =>
    cases b with
    | obj zs =>
      rw [sortKeys_obj, sortKeys_obj, Json.obj.injEq] at h
      have hperm : (xs.map sortKeysEntry).Perm (zs.map sortKeysEntry) :=
        (sortFields_perm _).symm.trans (h ▸ sortFields_perm _)
      -- take the entries of the second object into the order of the first
      have hzs : List.Forall₂ (fun e f => e = sortKeysEntry f) (zs.map sortKeysEntry) zs :=
        List.forall₂_map_left_iff.mpr (List.forall₂_same.mpr fun _ _ => rfl)
      obtain ⟨ys, hys, moved⟩ := List.perm_comp_forall₂ hperm hzs
      rw [List.forall₂_map_left_iff] at hys
      have hinside := (List.forall₂_and_left _ _).mpr ⟨fun e he w => @ih e he w, hys⟩
      refine reordered_obj_iff.mpr ⟨ys, zs, hinside.imp fun e f hef => ?_, moved, rfl⟩
      obtain ⟨hkey, hvalue⟩ := Prod.mk.inj hef.2
      exact ⟨hkey, hef.1 f.2 hvalue⟩
    | _ => cases h

/-- Values that are the same up to the order of entries are the same with their keys in order. -/
theorem sortKeys_of_reordered {a b : Json} (ha : a.proper = true) (h : Reordered Eq a b) :
    a.sortKeys = b.sortKeys := by
  induction a using valueInduction generalizing b with
  | null =>
    cases h
    rfl
  | number v q hq =>
    cases h with
    | same => rfl
    | _ => cases hq
  | str s =>
    cases h
    rfl
  | arr xs ih =>
    obtain ⟨ys, zs, inside, rfl, rfl⟩ := (reordered_arr_iff fun _ => rfl).mp h
    rw [proper_arr] at ha
    have hitems : xs.map sortKeys = ys.map sortKeys := by
      have hinside := (List.forall₂_and_left _ _).mpr
        ⟨fun x hx y => @ih x hx y (ha x hx), inside⟩
      exact map_eq_map_iff_forall₂.mpr (hinside.imp fun x y hxy => hxy.1 y hxy.2)
    rw [sortKeys_arr, sortKeys_arr, hitems]
  | obj xs ih =>
    obtain ⟨ys, zs, inside, moved, rfl⟩ := reordered_obj_iff.mp h
    rw [proper_obj] at ha
    have hentries : xs.map sortKeysEntry = ys.map sortKeysEntry := by
      have hinside := (List.forall₂_and_left _ _).mpr
        ⟨fun e he w => @ih e he w (ha.2 e he), inside⟩
      exact map_eq_map_iff_forall₂.mpr (hinside.imp fun e f hef =>
        Prod.ext hef.2.1 (hef.1 f.2 hef.2.2))
    -- entries that are moved have one order, since no key is there twice
    have hkeys : ((ys.map sortKeysEntry).map Prod.fst).Nodup := by
      rw [← hentries, keys_map_sortKeysEntry]
      exact ha.1
    rw [sortKeys_obj, sortKeys_obj, hentries,
      sortFields_eq_of_perm hkeys (moved.map sortKeysEntry)]

theorem sortKeys_eq_iff {a b : Json} (ha : a.proper = true) :
    a.sortKeys = b.sortKeys ↔ Reordered Eq a b :=
  ⟨reordered_of_sortKeys, sortKeys_of_reordered ha⟩

/-- Two values have one canonical text exactly if they are the same up to the order of entries. -/
theorem canonicalText_eq_iff {a b : Json} (ha : a.proper = true) (hb : b.proper = true) :
    a.canonicalText = b.canonicalText ↔ Reordered Eq a b := by
  rw [← sortKeys_eq_iff ha]
  constructor
  · intro h
    -- the text is read back as the value with its keys in order
    have hread := parse?_render readable_spaced (proper_sortKeys ha)
    have hread' := parse?_render readable_spaced (proper_sortKeys hb)
    unfold canonicalText at h
    rw [h, hread'] at hread
    exact (Option.some.inj hread).symm
  · intro h
    unfold canonicalText
    rw [h]

end Remedy.Json
