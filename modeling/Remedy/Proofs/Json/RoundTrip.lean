import Remedy.Proofs.Json.Fields
import Remedy.Proofs.Json.Numbers
import Remedy.Proofs.Json.Order
import Remedy.Proofs.Json.Strings

/-!
# Written values read back

A value that is written with commas between items, colons after keys and blanks around them reads
back as the value, if no object in it has a key twice. This holds of doubles too, which are written
with as few digits as tell them apart.

Main results:

* `items_chars`, `members_chars`: the items of a list and the entries of an object read back if each
  of their values does.
* `reads_of_proper`: a value reads back wherever it stands.
* `parse?_render`: the text of a value reads back.
-/

namespace Remedy.Json

open Reader

/-! ## Layouts and blanks -/

/-- Nothing but blanks. -/
def Blank (cs : List Char) : Prop :=
  ∀ c ∈ cs, isGap c = true

/-- A comma stands between items and a colon behind a key, each with blanks behind it at most. -/
structure Layout.Readable (layout : Layout) : Prop where
  items : ∃ bs, layout.itemGap.toList = ',' :: bs ∧ Blank bs
  keys : ∃ bs, layout.keyGap.toList = ':' :: bs ∧ Blank bs

theorem readable_spaced : spaced.Readable :=
  ⟨⟨[' '], rfl, by simp [Blank, isGap]⟩, ⟨[' '], rfl, by simp [Blank, isGap]⟩⟩

theorem blank_lineBreak (layout : Layout) (level : Nat) : Blank (lineBreak layout level) := by
  intro c hc
  unfold lineBreak at hc
  split at hc
  · rcases List.mem_cons.mp hc with rfl | hc
    · rfl
    · rw [List.eq_of_mem_replicate hc]
      rfl
  · cases hc

theorem skip_append {bs : List Char} (hbs : Blank bs) (cs : List Char) :
    skip (bs ++ cs) = skip cs :=
  List.dropWhile_append_of_pos hbs

theorem skip_cons {c : Char} (hc : isGap c = false) (cs : List Char) : skip (c :: cs) = c :: cs := by
  simp [skip, hc]

/-- A number ends before blanks, if it ends before what follows them. -/
theorem endsNumber_append {bs rest : List Char} (hbs : Blank bs) (hrest : EndsNumber rest) :
    EndsNumber (bs ++ rest) := by
  cases bs with
  | nil => exact hrest
  | cons b bs =>
    intro c hc
    rw [List.cons_append, List.head?_cons, Option.mem_some_iff] at hc
    subst hc
    have hgap := hbs b List.mem_cons_self
    simp only [isGap, Bool.or_eq_true, beq_iff_eq] at hgap
    rcases hgap with ((rfl | rfl) | rfl) | rfl <;> decide

theorem endsNumber_cons {c : Char} (hdigit : c.isDigit = false) (hmark : c ∉ ['.', 'e', 'E'])
    (rest : List Char) : EndsNumber (c :: rest) := by
  intro d hd
  rw [List.head?_cons, Option.mem_some_iff] at hd
  subst hd
  simp only [List.mem_cons, List.not_mem_nil, or_false, not_or] at hmark
  exact ⟨hdigit, hmark⟩

/-! ## Beginnings -/

/-- A text begins with something that is neither a blank nor a closing bracket. -/
def Opens (cs : List Char) : Prop :=
  ∃ c more, cs = c :: more ∧ isGap c = false ∧ c ≠ ']'

/-- A text begins like a word or a number. -/
def OpensScalar (cs : List Char) : Prop :=
  ∃ c more, cs = c :: more ∧ isGap c = false ∧ c ∉ [']', '"', '[', '\x7b']

theorem OpensScalar.opens {cs : List Char} (h : OpensScalar cs) : Opens cs := by
  obtain ⟨c, more, rfl, hgap, hc⟩ := h
  exact ⟨c, more, rfl, hgap, fun heq => hc (by simp [heq])⟩

theorem skip_of_opens {cs : List Char} (h : Opens cs) (rest : List Char) :
    skip (cs ++ rest) = cs ++ rest := by
  obtain ⟨c, more, rfl, hgap, -⟩ := h
  exact skip_cons hgap _

theorem value_of_opensScalar {cs : List Char} (h : OpensScalar cs) (fuel : Nat) (rest : List Char) :
    value (fuel + 1) (cs ++ rest) = scalar (cs ++ rest) := by
  obtain ⟨c, more, rfl, -, hc⟩ := h
  simp only [List.mem_cons, List.not_mem_nil, or_false, not_or] at hc
  rw [List.cons_append, value]
  · exact fun _ heq => hc.2.1 (List.cons.inj heq).1
  · exact fun _ heq => hc.2.2.1 (List.cons.inj heq).1
  · exact fun _ heq => hc.2.2.2 (List.cons.inj heq).1

theorem opensScalar_of_digit {cs : List Char} (h : BeginsWithDigit cs) : OpensScalar cs := by
  obtain ⟨c, more, rfl, hdigit⟩ := h
  have hother : ∀ d : Char, d.isDigit = false → c ≠ d := by
    rintro d hd rfl
    rw [hdigit] at hd
    cases hd
  refine ⟨c, more, rfl, ?_, ?_⟩
  · simp [isGap, hother]
  · simp [hother]

theorem opensScalar_intChars (n : Int) : OpensScalar (Decimal.intChars n) := by
  cases n with
  | ofNat n => exact opensScalar_of_digit (beginsWithDigit_naturalChars n)
  | negSucc n => exact ⟨'-', _, rfl, rfl, by decide⟩

theorem opensScalar_binary64Chars (x : Binary64) :
    OpensScalar (Decimal.binary64Chars Decimal.inJson x) := by
  cases x with
  | notANumber => exact ⟨'N', _, rfl, rfl, by decide⟩
  | infinite negative =>
    cases negative with
    | true => exact ⟨'-', _, rfl, rfl, by decide⟩
    | false => exact ⟨'I', _, rfl, rfl, by decide⟩
  | finite negative m e hform =>
    cases negative with
    | true => exact ⟨'-', _, rfl, rfl, by decide⟩
    | false =>
      unfold Decimal.binary64Chars
      dsimp only
      rw [if_neg Bool.false_ne_true, List.nil_append]
      split
      · exact ⟨'0', _, rfl, rfl, by decide⟩
      · exact opensScalar_of_digit (beginsWithDigit_layOut _ _ _)

theorem opens_chars (layout : Layout) (level : Nat) (v : Json) : Opens (chars layout level v) := by
  cases v with
  | null => exact ⟨'n', _, rfl, rfl, by decide⟩
  | bool b =>
    cases b with
    | true => exact ⟨'t', _, rfl, rfl, by decide⟩
    | false => exact ⟨'f', _, rfl, rfl, by decide⟩
  | int n =>
    rw [chars]
    exact (opensScalar_intChars n).opens
  | real x =>
    rw [chars]
    exact (opensScalar_binary64Chars x).opens
  | str s => exact ⟨'"', _, by rw [chars]; rfl, rfl, by decide⟩
  | arr xs =>
    cases xs with
    | nil => exact ⟨'[', _, by rw [chars], rfl, by decide⟩
    | cons x xs => exact ⟨'[', _, by rw [chars]; rfl, rfl, by decide⟩
  | obj fields =>
    cases fields with
    | nil => exact ⟨'\x7b', _, by rw [chars], rfl, by decide⟩
    | cons e fields => exact ⟨'\x7b', _, by rw [chars]; rfl, rfl, by decide⟩

theorem length_chars_pos (layout : Layout) (level : Nat) (v : Json) :
    0 < (chars layout level v).length := by
  obtain ⟨c, more, hcs, -⟩ := opens_chars layout level v
  simp [hcs]

/-! ## Values in their places -/

/-- The value is read from what is written for it, wherever a number would end behind it. -/
def Reads (layout : Layout) (v : Json) : Prop :=
  ∀ (level fuel : Nat) (rest : List Char), (chars layout level v).length < fuel →
    EndsNumber rest → value fuel (chars layout level v ++ rest) = some (v, rest)

theorem reads_of_scalar {layout : Layout} {v : Json} {cs : List Char}
    (hchars : ∀ level, chars layout level v = cs) (hopens : OpensScalar cs)
    (hscalar : ∀ rest, EndsNumber rest → scalar (cs ++ rest) = some (v, rest)) :
    Reads layout v := by
  intro level fuel rest hfuel hrest
  obtain ⟨fuel, rfl⟩ : ∃ k, fuel = k + 1 := ⟨fuel - 1, by omega⟩
  rw [hchars, value_of_opensScalar hopens, hscalar rest hrest]

theorem reads_str (layout : Layout) (s : String) : Reads layout (.str s) := by
  intro level fuel rest hfuel _
  obtain ⟨fuel, rfl⟩ : ∃ k, fuel = k + 1 := ⟨fuel - 1, by omega⟩
  have htext : chars layout level (.str s) ++ rest =
      '"' :: (s.toList.flatMap (stringChar layout.ascii) ++ '"' :: rest) := by
    rw [chars, stringChars]
    simp
  rw [htext, value, string_stringChars]
  rfl

section Parts

variable {layout : Layout} (hlayout : layout.Readable) (level : Nat)
include hlayout

theorem endsNumber_moreItems (xs : List Json) (rest : List Char) :
    EndsNumber (moreItems layout level xs ++ (lineBreak layout level ++ ']' :: rest)) := by
  obtain ⟨bs, hgap, -⟩ := hlayout.items
  cases xs with
  | nil =>
    rw [moreItems, List.nil_append]
    exact endsNumber_append (blank_lineBreak layout level) (endsNumber_cons rfl (by decide) _)
  | cons x xs =>
    rw [moreItems, hgap]
    exact endsNumber_cons rfl (by decide) _

theorem endsNumber_moreFields (fields : Fields) (rest : List Char) :
    EndsNumber (moreFields layout level fields ++ (lineBreak layout level ++ '\x7d' :: rest)) := by
  obtain ⟨bs, hgap, -⟩ := hlayout.items
  cases fields with
  | nil =>
    rw [moreFields, List.nil_append]
    exact endsNumber_append (blank_lineBreak layout level) (endsNumber_cons rfl (by decide) _)
  | cons e fields =>
    rw [moreFields, hgap]
    exact endsNumber_cons rfl (by decide) _

/-- The items of a list read back if each of them does. -/
theorem items_chars {x : Json} {xs : List Json} (hreads : ∀ y ∈ x :: xs, Reads layout y)
    {fuel : Nat} (rest : List Char)
    (hfuel : (chars layout (level + 1) x).length + (moreItems layout level xs).length + 2 ≤ fuel) :
    items fuel (chars layout (level + 1) x ++
        (moreItems layout level xs ++ (lineBreak layout level ++ ']' :: rest))) =
      some (x :: xs, rest) := by
  obtain ⟨bs, hgap, hbs⟩ := hlayout.items
  have hbreak := blank_lineBreak layout
  induction xs generalizing x fuel with
  | nil =>
    obtain ⟨fuel, rfl⟩ : ∃ k, fuel = k + 1 := ⟨fuel - 1, by omega⟩
    have hx := hreads x List.mem_cons_self (level + 1) fuel
      (moreItems layout level [] ++ (lineBreak layout level ++ ']' :: rest)) (by omega)
      (endsNumber_moreItems hlayout level [] rest)
    have hskip : skip (moreItems layout level [] ++ (lineBreak layout level ++ ']' :: rest)) =
        ']' :: rest := by
      rw [moreItems, List.nil_append, skip_append (hbreak level), skip_cons rfl]
    simp [items, hx, hskip]
  | cons y xs ih =>
    obtain ⟨fuel, rfl⟩ : ∃ k, fuel = k + 1 := ⟨fuel - 1, by omega⟩
    have hx := hreads x List.mem_cons_self (level + 1) fuel
      (moreItems layout level (y :: xs) ++ (lineBreak layout level ++ ']' :: rest)) (by omega)
      (endsNumber_moreItems hlayout level (y :: xs) rest)
    have hpos := length_chars_pos layout (level + 1) x
    have hrest := @ih y (fun z hz => hreads z (List.mem_cons_of_mem x hz)) fuel (by
      rw [moreItems, hgap] at hfuel
      simp only [List.length_append, List.length_cons] at hfuel
      omega)
    have hskip : skip (moreItems layout level (y :: xs) ++ (lineBreak layout level ++ ']' :: rest)) =
        ',' :: (bs ++ (lineBreak layout (level + 1) ++ (chars layout (level + 1) y ++
          (moreItems layout level xs ++ (lineBreak layout level ++ ']' :: rest))))) := by
      rw [moreItems, hgap]
      simp only [List.cons_append, List.append_assoc]
      exact skip_cons rfl _
    have hnext : skip (bs ++ (lineBreak layout (level + 1) ++ (chars layout (level + 1) y ++
          (moreItems layout level xs ++ (lineBreak layout level ++ ']' :: rest))))) =
        chars layout (level + 1) y ++
          (moreItems layout level xs ++ (lineBreak layout level ++ ']' :: rest)) := by
      rw [skip_append hbs, skip_append (hbreak (level + 1)), skip_of_opens (opens_chars _ _ y)]
    simp [items, hx, hskip, hnext, hrest]

/-- What is written for an entry of an object. -/
def fieldChars (layout : Layout) (level : Nat) (e : String × Json) : List Char :=
  stringChars layout.ascii e.1 ++ (layout.keyGap.toList ++ chars layout (level + 1) e.2)

omit hlayout in
theorem moreFields_cons (e : String × Json) (fields : Fields) :
    moreFields layout level (e :: fields) = layout.itemGap.toList ++ (lineBreak layout (level + 1) ++
      (fieldChars layout level e ++ moreFields layout level fields)) := by
  obtain ⟨k, v⟩ := e
  rw [moreFields, fieldChars]
  simp only [List.append_assoc]

/-- An entry is read up to its end, and then the other entries if there is a comma. -/
theorem members_field {e : String × Json} (hread : Reads layout e.2) {fuel : Nat}
    {rest more : List Char} (hfuel : (chars layout (level + 1) e.2).length < fuel)
    (hrest : EndsNumber rest) :
    (skip rest = '\x7d' :: more →
      members (fuel + 1) (fieldChars layout level e ++ rest) = some ([e], more)) ∧
    (skip rest = ',' :: more →
      members (fuel + 1) (fieldChars layout level e ++ rest) =
        (members fuel (skip more)).map fun p => (e :: p.1, p.2)) := by
  obtain ⟨k, v⟩ := e
  obtain ⟨bs, hgap, hbs⟩ := hlayout.keys
  have htext : fieldChars layout level (k, v) ++ rest =
      '"' :: (k.toList.flatMap (stringChar layout.ascii) ++
        '"' :: ':' :: (bs ++ (chars layout (level + 1) v ++ rest))) := by
    rw [fieldChars, stringChars, hgap]
    simp
  have hcolon : ∀ cs, skip (':' :: cs) = ':' :: cs := fun cs => skip_cons rfl cs
  have hvalue : skip (bs ++ (chars layout (level + 1) v ++ rest)) =
      chars layout (level + 1) v ++ rest := by
    rw [skip_append hbs, skip_of_opens (opens_chars _ _ v)]
  have hv := hread (level + 1) fuel rest hfuel hrest
  rw [htext]
  constructor
  · intro hskip
    simp [members, string_stringChars, hcolon, hvalue, hv, hskip]
  · intro hskip
    simp only [members, string_stringChars, hcolon, hvalue, hv, hskip, Option.bind_eq_bind,
      Option.bind_some]
    cases members fuel (skip more) <;> rfl

/-- The entries of an object read back if each of their values does. -/
theorem members_chars {e : String × Json} {fields : Fields}
    (hreads : ∀ y ∈ e :: fields, Reads layout y.2) {fuel : Nat} (rest : List Char)
    (hfuel : (fieldChars layout level e).length + (moreFields layout level fields).length + 2 ≤ fuel) :
    members fuel (fieldChars layout level e ++
        (moreFields layout level fields ++ (lineBreak layout level ++ '\x7d' :: rest))) =
      some (e :: fields, rest) := by
  obtain ⟨bs, hgap, hbs⟩ := hlayout.items
  have hbreak := blank_lineBreak layout
  have hlen : ∀ y : String × Json, (chars layout (level + 1) y.2).length ≤
      (fieldChars layout level y).length := by
    intro y
    simp only [fieldChars, List.length_append]
    omega
  induction fields generalizing e fuel with
  | nil =>
    obtain ⟨fuel, rfl⟩ : ∃ k, fuel = k + 1 := ⟨fuel - 1, by omega⟩
    have he := hlen e
    have hskip : skip (moreFields layout level [] ++ (lineBreak layout level ++ '\x7d' :: rest)) =
        '\x7d' :: rest := by
      rw [moreFields, List.nil_append, skip_append (hbreak level), skip_cons rfl]
    exact (members_field hlayout level (hreads e List.mem_cons_self) (by omega)
      (endsNumber_moreFields hlayout level [] rest)).1 hskip
  | cons y fields ih =>
    obtain ⟨fuel, rfl⟩ : ∃ k, fuel = k + 1 := ⟨fuel - 1, by omega⟩
    have he := hlen e
    have hpos := length_chars_pos layout (level + 1) e.2
    have hrest := @ih y (fun z hz => hreads z (List.mem_cons_of_mem e hz)) fuel (by
      rw [moreFields_cons, hgap] at hfuel
      simp only [List.length_append, List.length_cons] at hfuel
      omega)
    have hskip : skip (moreFields layout level (y :: fields) ++
          (lineBreak layout level ++ '\x7d' :: rest)) =
        ',' :: (bs ++ (lineBreak layout (level + 1) ++ (fieldChars layout level y ++
          (moreFields layout level fields ++ (lineBreak layout level ++ '\x7d' :: rest))))) := by
      rw [moreFields_cons, hgap]
      simp only [List.cons_append, List.append_assoc]
      exact skip_cons rfl _
    have hnext : skip (bs ++ (lineBreak layout (level + 1) ++ (fieldChars layout level y ++
          (moreFields layout level fields ++ (lineBreak layout level ++ '\x7d' :: rest))))) =
        fieldChars layout level y ++
          (moreFields layout level fields ++ (lineBreak layout level ++ '\x7d' :: rest)) := by
      rw [skip_append hbs, skip_append (hbreak (level + 1))]
      exact skip_cons rfl _
    rw [(members_field hlayout level (hreads e List.mem_cons_self) (by omega)
      (endsNumber_moreFields hlayout level (y :: fields) rest)).2 hskip, hnext, hrest]
    rfl

end Parts

/-! ## Whole values -/

theorem reads_arr {layout : Layout} (hlayout : layout.Readable) {xs : List Json}
    (hreads : ∀ x ∈ xs, Reads layout x) : Reads layout (.arr xs) := by
  intro level fuel rest hfuel _
  obtain ⟨fuel, rfl⟩ : ∃ k, fuel = k + 1 := ⟨fuel - 1, by omega⟩
  cases xs with
  | nil =>
    rw [chars]
    rfl
  | cons x xs =>
    have htext : chars layout level (.arr (x :: xs)) ++ rest =
        '[' :: (lineBreak layout (level + 1) ++ (chars layout (level + 1) x ++
          (moreItems layout level xs ++ (lineBreak layout level ++ ']' :: rest)))) := by
      rw [chars]
      simp
    rw [chars] at hfuel
    simp only [List.length_append, List.length_cons] at hfuel
    have hitems := items_chars hlayout level hreads rest (show _ ≤ fuel by omega)
    have hopens := opens_chars layout (level + 1) x
    have hskip : skip (lineBreak layout (level + 1) ++ (chars layout (level + 1) x ++
          (moreItems layout level xs ++ (lineBreak layout level ++ ']' :: rest)))) =
        chars layout (level + 1) x ++
          (moreItems layout level xs ++ (lineBreak layout level ++ ']' :: rest)) := by
      rw [skip_append (blank_lineBreak layout (level + 1)), skip_of_opens hopens]
    obtain ⟨c, more, hcs, -, hc⟩ := hopens
    rw [htext, value, hskip]
    rw [hcs, List.cons_append] at hitems ⊢
    split
    · rename_i heq
      exact absurd (List.cons.inj heq).1 hc
    · rw [hitems]
      rfl

theorem reads_obj {layout : Layout} (hlayout : layout.Readable) {fields : Fields}
    (hkeys : (fields.map Prod.fst).Nodup) (hreads : ∀ e ∈ fields, Reads layout e.2) :
    Reads layout (.obj fields) := by
  intro level fuel rest hfuel _
  obtain ⟨fuel, rfl⟩ : ∃ k, fuel = k + 1 := ⟨fuel - 1, by omega⟩
  cases fields with
  | nil =>
    rw [chars]
    rfl
  | cons e fields =>
    have hchars : chars layout level (.obj (e :: fields)) =
        '\x7b' :: (lineBreak layout (level + 1) ++ (fieldChars layout level e ++
          (moreFields layout level fields ++ (lineBreak layout level ++ ['\x7d'])))) := by
      obtain ⟨k, v⟩ := e
      rw [chars, fieldChars]
      simp
    rw [hchars] at hfuel ⊢
    simp only [List.length_append, List.length_cons, List.length_nil] at hfuel
    have hmembers := members_chars hlayout level hreads rest (show _ ≤ fuel by omega)
    have hskip : skip (lineBreak layout (level + 1) ++ (fieldChars layout level e ++
          (moreFields layout level fields ++ (lineBreak layout level ++ '\x7d' :: rest)))) =
        fieldChars layout level e ++
          (moreFields layout level fields ++ (lineBreak layout level ++ '\x7d' :: rest)) := by
      rw [skip_append (blank_lineBreak layout (level + 1))]
      exact skip_cons rfl _
    simp only [List.cons_append, List.append_assoc, List.nil_append]
    rw [value, hskip]
    split
    · rename_i heq
      cases heq
    · rw [hmembers]
      show some (Json.obj (Fields.ofPairs (e :: fields)), rest) = _
      rw [Fields.ofPairs_of_nodup hkeys]

/-- A value in which no object has a key twice reads back wherever it stands. -/
theorem reads_of_proper {layout : Layout} (hlayout : layout.Readable) {v : Json}
    (hv : v.proper = true) : Reads layout v := by
  induction v using valueInduction with
  | null =>
    have hchars : ∀ level, chars layout level .null = "null".toList := fun _ => by rw [chars]
    exact reads_of_scalar hchars ⟨'n', _, rfl, rfl, by decide⟩ fun _ _ => rfl
  | number v q hq =>
    cases v with
    | bool b =>
      cases b with
      | true =>
        have hchars : ∀ level, chars layout level (.bool true) = "true".toList :=
          fun _ => by rw [chars]
        exact reads_of_scalar hchars ⟨'t', _, rfl, rfl, by decide⟩ fun _ _ => rfl
      | false =>
        have hchars : ∀ level, chars layout level (.bool false) = "false".toList :=
          fun _ => by rw [chars]
        exact reads_of_scalar hchars ⟨'f', _, rfl, rfl, by decide⟩ fun _ _ => rfl
    | int n =>
      exact reads_of_scalar (fun _ => by rw [chars]) (opensScalar_intChars n)
        fun _ hrest => scalar_intChars n hrest
    | real x =>
      exact reads_of_scalar (fun _ => by rw [chars]) (opensScalar_binary64Chars x)
        fun _ hrest => scalar_binary64Chars x hrest
    | null => cases hq
    | str s => cases hq
    | arr xs => cases hq
    | obj fields => cases hq
  | str s => exact reads_str layout s
  | arr xs ih =>
    rw [proper_arr] at hv
    exact reads_arr hlayout fun x hx => ih x hx (hv x hx)
  | obj fields ih =>
    rw [proper_obj] at hv
    exact reads_obj hlayout hv.1 fun e he => ih e he (hv.2 e he)

/-- The text of a value reads back. -/
theorem parse?_render {layout : Layout} (hlayout : layout.Readable) {v : Json}
    (hv : v.proper = true) : parse? (render layout v) = some v := by
  have hends : EndsNumber [] := fun c hc => by cases hc
  have hread := reads_of_proper hlayout hv 0 ((chars layout 0 v).length + 1) []
    (Nat.lt_succ_self _) hends
  have hskip := skip_of_opens (opens_chars layout 0 v) []
  rw [List.append_nil] at hread hskip
  unfold parse? render
  simp only [String.toList_ofList, hskip, hread]
  rfl

end Remedy.Json
