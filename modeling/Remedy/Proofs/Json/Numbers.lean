import Remedy.Json.Reader
import Remedy.Json.Writer
import Remedy.Proofs.Number.Decimal

/-!
# Reading written numbers

A number is written as digits, or as digits with a point, an exponent or both. What is written for a
whole number reads back as the whole number, and what is written for a double reads back as the
double, wherever the text goes on with something that cannot belong to the number.

Main results:

* `unsigned_real`: digits with a fraction or an exponent read as the double nearest to their value.
* `unsigned_layOut`: the digits of a decimal read as its double, wherever the point is put.
* `scalar_intChars`, `scalar_binary64Chars`: numbers read back.
-/

namespace Remedy.Json.Reader

/-! ## Digits -/

/-- No digit follows. -/
def StopsDigits (rest : List Char) : Prop :=
  ∀ c ∈ rest.head?, c.isDigit = false

/-- Nothing follows that could belong to a number. -/
def EndsNumber (rest : List Char) : Prop :=
  ∀ c ∈ rest.head?, c.isDigit = false ∧ c ≠ '.' ∧ c ≠ 'e' ∧ c ≠ 'E'

theorem EndsNumber.stopsDigits {rest : List Char} (h : EndsNumber rest) : StopsDigits rest :=
  fun c hc => (h c hc).1

theorem stopsDigits_cons {c : Char} (hc : c.isDigit = false) (rest : List Char) :
    StopsDigits (c :: rest) := by
  intro d hd
  rw [List.head?_cons, Option.mem_some_iff] at hd
  rw [← hd, hc]

theorem digits_append {ds rest : List Char} (hds : ∀ c ∈ ds, c.isDigit = true)
    (hrest : StopsDigits rest) : digits (ds ++ rest) = (ds, rest) := by
  have hstop : rest.takeWhile Char.isDigit = [] ∧ rest.dropWhile Char.isDigit = rest := by
    cases rest with
    | nil => simp
    | cons c rest => simp [hrest c rfl]
  unfold digits
  rw [List.takeWhile_append_of_pos hds, List.dropWhile_append_of_pos hds, hstop.1, hstop.2,
    List.append_nil]

/-! ## Fractions and exponents -/

/-- A fraction as it is written; none if there are no digits. -/
def fractionText (ds : List Char) : List Char :=
  if ds.isEmpty then [] else '.' :: ds

/-- An exponent as it is written, if there is one. -/
def exponentText (width : Nat) : Option Int → List Char
  | some e => 'e' :: Decimal.exponentChars width e
  | none => []

theorem fraction?_fractionText {ds rest : List Char} (hds : ∀ c ∈ ds, c.isDigit = true)
    (hrest : EndsNumber rest ∨ ∃ more, rest = 'e' :: more) :
    fraction? (fractionText ds ++ rest) = if ds.isEmpty then none else some (ds, rest) := by
  have hstop : StopsDigits rest := by
    rcases hrest with hrest | ⟨more, rfl⟩
    · exact hrest.stopsDigits
    · exact stopsDigits_cons rfl more
  have hpoint : ∀ more, rest ≠ '.' :: more := by
    rintro more rfl
    rcases hrest with hrest | ⟨more, hmore⟩
    · exact (hrest '.' rfl).2.1 rfl
    · cases hmore
  unfold fractionText
  cases hempty : ds.isEmpty with
  | true =>
    rw [if_pos rfl, if_pos rfl, List.nil_append]
    unfold fraction?
    split
    · exact absurd rfl (hpoint _)
    · rfl
  | false =>
    rw [if_neg Bool.false_ne_true, if_neg Bool.false_ne_true, List.cons_append]
    simp only [fraction?, digits_append hds hstop, hempty, if_neg Bool.false_ne_true]

theorem exponent?_of_ends {rest : List Char} (hrest : EndsNumber rest) : exponent? rest = none := by
  cases rest with
  | nil => rfl
  | cons c rest =>
    obtain ⟨-, -, he, hE⟩ := hrest c rfl
    simp [exponent?, he, hE]

theorem isDigit_of_mem_zeros {k : Nat} {c : Char} (h : c ∈ List.replicate k '0') :
    c.isDigit = true := by
  rw [List.eq_of_mem_replicate h]
  rfl

/-- An exponent reads back, with the zeros that stand before its digits. -/
theorem exponent?_exponentChars (width : Nat) (e : Int) {rest : List Char}
    (hrest : StopsDigits rest) :
    exponent? ('e' :: Decimal.exponentChars width e ++ rest) = some (e, rest) := by
  have hds : ∀ c ∈ List.replicate (width - (Decimal.naturalChars e.natAbs).length) '0' ++
      Decimal.naturalChars e.natAbs, c.isDigit = true := by
    intro c hc
    rcases List.mem_append.mp hc with hc | hc
    · exact isDigit_of_mem_zeros hc
    · exact Decimal.isDigit_of_mem_naturalChars hc
  have hvalue : Decimal.valueOf (List.replicate (width - (Decimal.naturalChars e.natAbs).length) '0' ++
      Decimal.naturalChars e.natAbs) = e.natAbs := by
    rw [Decimal.valueOf_append, Decimal.valueOf_zeros, Decimal.valueOf_naturalChars, zero_mul,
      zero_add]
  have hnonempty : (List.replicate (width - (Decimal.naturalChars e.natAbs).length) '0' ++
      Decimal.naturalChars e.natAbs).isEmpty = false := by
    simp [Decimal.naturalChars, Nat.toDigits_ne_nil]
  unfold Decimal.exponentChars
  by_cases he : e < 0
  · simp only [if_pos he, List.cons_append, exponent?, digits_append hds hrest, hnonempty, hvalue]
    simp [abs_of_neg he]
  · simp only [if_neg he, List.cons_append, exponent?, digits_append hds hrest, hnonempty, hvalue]
    simp [abs_of_nonneg (not_lt.mp he)]

/-! ## Numbers after their sign -/

/-- Digits that may stand before the point: a single zero, or some that do not begin with one. -/
def WholeDigits (ds : List Char) : Prop :=
  (∀ c ∈ ds, c.isDigit = true) ∧ (ds = ['0'] ∨ ∃ c more, ds = c :: more ∧ c ≠ '0')

theorem wholeDigits_naturalChars (n : Nat) : WholeDigits (Decimal.naturalChars n) := by
  refine ⟨fun c hc => Decimal.isDigit_of_mem_naturalChars hc, ?_⟩
  by_cases hn : n = 0
  · left
    rw [hn]
    rfl
  · right
    exact Decimal.naturalChars_eq_cons hn

theorem whole?_append {whole rest : List Char} (hwhole : WholeDigits whole)
    (hrest : StopsDigits rest) : whole? (whole ++ rest) = some (whole, rest) := by
  obtain ⟨hds, hhead⟩ := hwhole
  rcases hhead with rfl | ⟨c, more, rfl, hc⟩
  · rfl
  · have hread : whole? (c :: more ++ rest) =
        if (digits (c :: more ++ rest)).1.isEmpty then none else some (digits (c :: more ++ rest)) := by
      unfold whole?
      split
      · rename_i heq
        rw [List.cons_append, List.cons.injEq] at heq
        exact absurd heq.1 hc
      · rfl
    rw [hread, digits_append hds hrest]
    rfl

theorem unsigned_whole (negative : Bool) {whole rest : List Char} (hwhole : WholeDigits whole)
    (hrest : EndsNumber rest) :
    unsigned negative (whole ++ rest) =
      some (.int (if negative then -(Decimal.valueOf whole : Int) else Decimal.valueOf whole),
        rest) := by
  have hfraction : fraction? rest = none := by
    simpa [fractionText] using @fraction?_fractionText [] rest (by simp) (.inl hrest)
  unfold unsigned
  rw [whole?_append hwhole hrest.stopsDigits]
  simp only [Option.map_some, hfraction, exponent?_of_ends hrest]

/-- Digits with a fraction or an exponent read as the double nearest to their value. -/
theorem unsigned_real (negative : Bool) {whole frac rest : List Char} (width : Nat)
    (exponent : Option Int) (hwhole : WholeDigits whole) (hfrac : ∀ c ∈ frac, c.isDigit = true)
    (hsome : frac ≠ [] ∨ exponent.isSome = true) (hrest : EndsNumber rest) :
    unsigned negative (whole ++ (fractionText frac ++ (exponentText width exponent ++ rest))) =
      some (double negative (whole ++ frac) (exponent.getD 0 - frac.length), rest) := by
  have hnext : EndsNumber (exponentText width exponent ++ rest) ∨
      ∃ more, exponentText width exponent ++ rest = 'e' :: more := by
    cases exponent with
    | none => exact .inl hrest
    | some e => exact .inr ⟨_, rfl⟩
  have hstop : StopsDigits (fractionText frac ++ (exponentText width exponent ++ rest)) := by
    unfold fractionText
    split
    · rcases hnext with hnext | ⟨more, hmore⟩
      · exact hnext.stopsDigits
      · rw [List.nil_append, hmore]
        exact stopsDigits_cons rfl more
    · exact stopsDigits_cons rfl _
  have hexp : exponent? (exponentText width exponent ++ rest) =
      exponent.map fun e => (e, rest) := by
    cases exponent with
    | none => exact exponent?_of_ends hrest
    | some e => exact exponent?_exponentChars width e hrest.stopsDigits
  unfold unsigned
  rw [whole?_append hwhole hstop]
  simp only [Option.map_some, fraction?_fractionText hfrac hnext]
  by_cases hnil : frac = []
  · -- without a fraction there is an exponent
    subst hnil
    obtain ⟨e, rfl⟩ := Option.isSome_iff_exists.mp (hsome.resolve_left fun h => h rfl)
    rw [Option.map_some] at hexp
    simp [fractionText, hexp]
  · rw [if_neg (mt List.isEmpty_iff.mp hnil)]
    cases exponent with
    | none =>
      rw [Option.map_none] at hexp
      simp [hexp]
      rfl
    | some e =>
      rw [Option.map_some] at hexp
      simp [hexp]

/-! ## Decimals -/

section Places

variable (negative : Bool) {n : Nat} {rest : List Char}

/-- Digits after the point, behind a zero and perhaps further zeros. -/
theorem unsigned_behind_zeros (hn : n ≠ 0) (k : Nat) (hrest : EndsNumber rest) :
    unsigned negative ('0' :: '.' :: (List.replicate k '0' ++ Decimal.naturalChars n) ++ rest) =
      some (.real ((⟨n, -((k + (Decimal.naturalChars n).length : Nat) : Int)⟩ :
        Decimal.Scaled).toBinary64 negative), rest) := by
  obtain ⟨c, more, hds, -⟩ := Decimal.naturalChars_eq_cons hn
  have hfrac : ∀ d ∈ List.replicate k '0' ++ Decimal.naturalChars n, d.isDigit = true := by
    intro d hd
    rcases List.mem_append.mp hd with hd | hd
    · exact isDigit_of_mem_zeros hd
    · exact Decimal.isDigit_of_mem_naturalChars hd
  have hread := unsigned_real negative 0 none (wholeDigits_naturalChars 0) hfrac
    (.inl (by simp [hds])) hrest
  have hvalue : Decimal.valueOf (Decimal.naturalChars 0 ++
      (List.replicate k '0' ++ Decimal.naturalChars n)) = n := by
    rw [Decimal.valueOf_append, Decimal.valueOf_append, Decimal.valueOf_zeros,
      Decimal.valueOf_naturalChars, Decimal.valueOf_naturalChars]
    simp
  rw [double, hvalue, Option.getD_none, List.length_append, List.length_replicate, zero_sub] at hread
  rw [← hread]
  simp [exponentText, fractionText, Decimal.naturalChars]

/-- Digits and zeros before the point, and a zero after it. -/
theorem unsigned_before_zeros (hn : n ≠ 0) (k : Nat) (hrest : EndsNumber rest) :
    unsigned negative (Decimal.naturalChars n ++ List.replicate k '0' ++ ['.', '0'] ++ rest) =
      some (.real ((⟨n, k⟩ : Decimal.Scaled).toBinary64 negative), rest) := by
  obtain ⟨c, more, hds, hc⟩ := Decimal.naturalChars_eq_cons hn
  have hwhole : WholeDigits (Decimal.naturalChars n ++ List.replicate k '0') := by
    refine ⟨?_, .inr ⟨c, more ++ List.replicate k '0', by rw [hds]; rfl, hc⟩⟩
    intro d hd
    rcases List.mem_append.mp hd with hd | hd
    · exact Decimal.isDigit_of_mem_naturalChars hd
    · exact isDigit_of_mem_zeros hd
  have hread := unsigned_real negative 0 none hwhole
    (fun d hd => @isDigit_of_mem_zeros 1 d hd) (.inl (by simp)) hrest
  have hvalue : Decimal.valueOf (Decimal.naturalChars n ++ List.replicate k '0' ++
      List.replicate 1 '0') = n * 10 ^ (k + 1) := by
    rw [List.append_assoc, ← List.replicate_add, Decimal.valueOf_append, Decimal.valueOf_zeros,
      Decimal.valueOf_naturalChars, List.length_replicate, add_zero]
  have hsame := Decimal.toBinary64_shift negative hn (k + 1) (-1)
  have hplaces : -1 + ((k + 1 : Nat) : Int) = k := by omega
  rw [double, hvalue, Option.getD_none, List.length_replicate,
    show (0 : Int) - (1 : Nat) = -1 from rfl, hsame, hplaces] at hread
  rw [← hread]
  simp [exponentText, fractionText]

theorem wholeDigits_take (hn : n ≠ 0) {p : Nat} (hp : 0 < p) :
    WholeDigits ((Decimal.naturalChars n).take p) := by
  obtain ⟨c, more, hds, hc⟩ := Decimal.naturalChars_eq_cons hn
  refine ⟨fun d hd => Decimal.isDigit_of_mem_naturalChars (List.mem_of_mem_take hd),
    .inr ⟨c, more.take (p - 1), ?_, hc⟩⟩
  rw [hds, ← Nat.sub_one_add_one hp.ne']
  rfl

/-- Digits on both sides of the point, or an exponent behind the digits. -/
theorem unsigned_split (hn : n ≠ 0) {p : Nat} (hp : 0 < p) (width : Nat) (exponent : Option Int)
    (hsome : p < (Decimal.naturalChars n).length ∨ exponent.isSome = true)
    (hrest : EndsNumber rest) :
    unsigned negative ((Decimal.naturalChars n).take p ++
        (fractionText ((Decimal.naturalChars n).drop p) ++ (exponentText width exponent ++ rest))) =
      some (.real ((⟨n, exponent.getD 0 - ((Decimal.naturalChars n).length - p : Nat)⟩ :
        Decimal.Scaled).toBinary64 negative), rest) := by
  have hfrac : ∀ d ∈ (Decimal.naturalChars n).drop p, d.isDigit = true :=
    fun d hd => Decimal.isDigit_of_mem_naturalChars (List.mem_of_mem_drop hd)
  have hsome' : (Decimal.naturalChars n).drop p ≠ [] ∨ exponent.isSome = true := by
    rw [ne_eq, List.drop_eq_nil_iff, not_le]
    exact hsome
  rw [unsigned_real negative width exponent (wholeDigits_take hn hp) hfrac hsome' hrest, double,
    List.take_append_drop, Decimal.valueOf_naturalChars, List.length_drop]

end Places

/-- The digits of a decimal read as its double, wherever the point is put. -/
theorem unsigned_layOut (negative : Bool) (layout : Decimal.Layout) {s : Decimal.Scaled}
    (hs : s.digits ≠ 0) {rest : List Char} (hrest : EndsNumber rest) :
    unsigned negative (Decimal.layOut layout (Decimal.naturalChars s.digits)
        (s.exponent + (Decimal.naturalChars s.digits).length) ++ rest) =
      some (.real (s.toBinary64 negative), rest) := by
  obtain ⟨n, e⟩ := s
  dsimp only at hs ⊢
  generalize hlen : (Decimal.naturalChars n).length = len
  generalize hpoint : e + (len : Int) = point
  unfold Decimal.layOut
  by_cases hplace : (layout.lowestPoint ≤ point && point ≤ layout.highestPoint) = true
  · rw [if_pos hplace]
    by_cases hleft : point ≤ 0
    · have he : -((point.natAbs + (Decimal.naturalChars n).length : Nat) : Int) = e := by omega
      have hread := unsigned_behind_zeros negative hs point.natAbs hrest
      rw [he] at hread
      rw [if_pos hleft]
      exact hread
    · rw [if_neg hleft]
      dsimp only
      by_cases hright : (Decimal.naturalChars n).length ≤ point.toNat
      · have he : ((point.toNat - (Decimal.naturalChars n).length : Nat) : Int) = e := by omega
        have hread := unsigned_before_zeros negative hs
          (point.toNat - (Decimal.naturalChars n).length) hrest
        rw [he] at hread
        rw [if_pos hright]
        exact hread
      · have hp : 0 < point.toNat := by omega
        have he : (none : Option Int).getD 0 -
            ((Decimal.naturalChars n).length - point.toNat : Nat) = e := by
          rw [Option.getD_none]
          omega
        have hread := unsigned_split negative hs hp 0 none (.inl (not_le.mp hright)) hrest
        rw [he] at hread
        rw [if_neg hright, ← hread]
        simp [fractionText, exponentText, hright]
  · have he : (some (point - 1)).getD 0 - ((Decimal.naturalChars n).length - 1 : Nat) = e := by
      have hpos : 0 < (Decimal.naturalChars n).length := Nat.length_toDigits_pos
      rw [Option.getD_some]
      omega
    have hread := unsigned_split negative hs one_pos layout.exponentDigits (some (point - 1))
      (.inr rfl) hrest
    rw [he] at hread
    rw [if_neg hplace, ← hread]
    simp [fractionText, exponentText]

/-! ## Signs and words -/

/-- A text begins with a digit. -/
def BeginsWithDigit (cs : List Char) : Prop :=
  ∃ c more, cs = c :: more ∧ c.isDigit = true

theorem beginsWithDigit_naturalChars (n : Nat) : BeginsWithDigit (Decimal.naturalChars n) := by
  obtain ⟨c, more, hds⟩ := List.exists_cons_of_ne_nil (@Nat.toDigits_ne_nil n 10)
  exact ⟨c, more, hds, Decimal.isDigit_of_mem_naturalChars (n := n) (by
    unfold Decimal.naturalChars
    rw [hds]
    exact List.mem_cons_self)⟩

theorem beginsWithDigit_layOut (layout : Decimal.Layout) (n : Nat) (point : Int) :
    BeginsWithDigit (Decimal.layOut layout (Decimal.naturalChars n) point) := by
  obtain ⟨c, more, hds, hc⟩ := beginsWithDigit_naturalChars n
  unfold Decimal.layOut
  rw [hds]
  by_cases hplace : (layout.lowestPoint ≤ point && point ≤ layout.highestPoint) = true
  · rw [if_pos hplace]
    by_cases hleft : point ≤ 0
    · rw [if_pos hleft]
      exact ⟨'0', _, rfl, rfl⟩
    · rw [if_neg hleft]
      dsimp only
      split
      · exact ⟨c, _, rfl, hc⟩
      · obtain ⟨p, hp⟩ : ∃ p, point.toNat = p + 1 := ⟨point.toNat - 1, by omega⟩
        rw [hp]
        exact ⟨c, _, rfl, hc⟩
  · rw [if_neg hplace]
    exact ⟨c, _, rfl, hc⟩

/-- A number behind its sign is read as a number of that sign. -/
theorem scalar_signed (negative : Bool) {body : List Char} (hbody : BeginsWithDigit body)
    (rest : List Char) :
    scalar ((if negative then ['-'] else []) ++ body ++ rest) = unsigned negative (body ++ rest) := by
  obtain ⟨c, more, rfl, hc⟩ := hbody
  have hother : ∀ d : Char, d.isDigit = false → c ≠ d := by
    rintro d hd rfl
    rw [hc] at hd
    cases hd
  cases negative with
  | true =>
    show scalar ('-' :: c :: (more ++ rest)) = unsigned true (c :: (more ++ rest))
    unfold scalar
    split
    case h_6 heq =>
      rw [List.cons.injEq, List.cons.injEq] at heq
      exact absurd heq.2.1 (hother 'I' rfl)
    case h_7 heq =>
      rw [List.cons.injEq] at heq
      rw [heq.2]
    all_goals simp_all
  | false =>
    show scalar (c :: (more ++ rest)) = unsigned false (c :: (more ++ rest))
    unfold scalar
    split
    case h_8 => rfl
    all_goals
      rename_i heq
      rw [List.cons.injEq] at heq
      exact absurd heq.1 (hother _ rfl)

/-- A whole number reads back. -/
theorem scalar_intChars (n : Int) {rest : List Char} (hrest : EndsNumber rest) :
    scalar (Decimal.intChars n ++ rest) = some (.int n, rest) := by
  cases n with
  | ofNat n =>
    have hread := scalar_signed false (beginsWithDigit_naturalChars n) rest
    rw [unsigned_whole false (wholeDigits_naturalChars n) hrest, Decimal.valueOf_naturalChars] at hread
    exact hread
  | negSucc n =>
    have hread := scalar_signed true (beginsWithDigit_naturalChars (n + 1)) rest
    rw [unsigned_whole true (wholeDigits_naturalChars (n + 1)) hrest,
      Decimal.valueOf_naturalChars] at hread
    exact hread

/-- A double reads back. -/
theorem scalar_binary64Chars (x : Binary64) {rest : List Char} (hrest : EndsNumber rest) :
    scalar (Decimal.binary64Chars Decimal.inJson x ++ rest) = some (.real x, rest) := by
  cases x with
  | notANumber => rfl
  | infinite negative => cases negative <;> rfl
  | finite negative m e hform =>
    unfold Decimal.binary64Chars
    by_cases hm : m = 0
    · subst hm
      have hzero : e = -1074 := hform.2.2.2.resolve_left (by decide)
      subst hzero
      have hread := unsigned_real negative 0 none (wholeDigits_naturalChars 0)
        (fun d hd => @isDigit_of_mem_zeros 1 d hd) (.inl (by simp)) hrest
      dsimp only
      rw [if_pos rfl, scalar_signed negative ⟨'0', _, rfl, rfl⟩]
      refine Eq.trans hread ?_
      have hpack := Binary64.pack_of_canonical negative hform
      simp only [Option.some.injEq, Prod.mk.injEq, and_true, double, Json.real.injEq]
      exact hpack
    · obtain ⟨hs, hback⟩ := Decimal.toBinary64_shortest negative hm hform
      dsimp only
      rw [if_neg hm, scalar_signed negative (beginsWithDigit_layOut _ _ _),
        unsigned_layOut negative Decimal.inJson hs hrest, hback]

end Remedy.Json.Reader
