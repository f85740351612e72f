import Remedy.Proofs.Prompt.Rendering
import Remedy.Proofs.Number.Decimal
import Mathlib.Data.List.TakeWhile

/-!
# The texts that templates give

Escaping touches the characters with a meaning in markup and no others, so numbers come out as they
are. A template is filled in part by part: the texts of its parts follow each other, and a repeated
part gives one text for each item. Around tags a text loses the line break behind a tag; blanks before
a tag are lost only on a line that has nothing else.

Main results:

* `escape_of_plain`: a text without such characters is not changed by escaping.
* `renderNodes_cons_of_ok`, `renderNode_forEach_of_forall₂`: what the parts of a template give.
* `settleNodes_of_no_tags`: without tags every text is kept.
* `settleText_within_line`, `settleText_after_tag`, `settleText_before_tag`,
  `settleText_between_tags`: what a text at a tag loses.
-/

namespace Remedy

namespace Template

/-! ## Escaping -/

/-- The characters with a meaning in markup. -/
def markup : List Char := ['&', '<', '>', '\'', '"']

/-- The text has no character with a meaning in markup. -/
def Plain (cs : List Char) : Prop := ∀ c ∈ cs, c ∉ markup

instance (cs : List Char) : Decidable (Plain cs) := List.decidableBAll (fun c => c ∉ markup) cs

theorem plain_append {as bs : List Char} : Plain (as ++ bs) ↔ Plain as ∧ Plain bs :=
  List.forall_mem_append

theorem escapeChar_of_notMem {c : Char} (h : c ∉ markup) : escapeChar c = [c] := by
  simp only [markup, List.mem_cons, List.not_mem_nil, or_false, not_or] at h
  obtain ⟨hamp, hless, hgreater, hsingle, hdouble⟩ := h
  simp [escapeChar, hamp, hless, hgreater, hsingle, hdouble]

theorem flatMap_escapeChar_of_plain {cs : List Char} (h : Plain cs) :
    cs.flatMap escapeChar = cs := by
  induction cs with
  | nil => rfl
  | cons c cs ih =>
    rw [Plain, List.forall_mem_cons] at h
    rw [List.flatMap_cons, escapeChar_of_notMem h.1, ih h.2, List.singleton_append]

theorem escape_of_plain {s : String} (h : Plain s.toList) : escape s = s := by
  rw [escape, flatMap_escapeChar_of_plain h, String.ofList_toList]

theorem plain_of_isDigit {cs : List Char} (h : ∀ c ∈ cs, c.isDigit = true) : Plain cs := by
  have hmarkup : markup.all (!·.isDigit) = true := by decide
  intro c hc hin
  have hnot := List.all_eq_true.mp hmarkup c hin
  rw [h c hc] at hnot
  cases hnot

/-- Numbers have no character that is escaped: digits, and a minus sign in front at most. -/
theorem escape_int (n : Int) : escape (Decimal.int n) = Decimal.int n := by
  apply escape_of_plain
  rw [Decimal.int, String.toList_ofList]
  have hdigits : ∀ m, Plain (Decimal.naturalChars m) := fun m =>
    plain_of_isDigit fun _ hc => Decimal.isDigit_of_mem_naturalChars hc
  cases n with
  | ofNat m => exact hdigits m
  | negSucc m =>
    rw [Decimal.intChars, Plain, List.forall_mem_cons]
    exact ⟨by decide, hdigits (m + 1)⟩

/-! ## Filling in part by part -/

section Parts

variable {layout : TemplateLayout} {values : Fields} {rest : List TemplateNode}

theorem renderNodes_cons_of_ok {n : TemplateNode} {front : String}
    (h : renderNode layout values n = .ok front) :
    renderNodes layout values (n :: rest) = (renderNodes layout values rest).map (front ++ ·) := by
  rw [renderNodes, h]
  cases renderNodes layout values rest <;> rfl

theorem renderNodes_append_of_ok {ns : List TemplateNode} {front : String}
    (h : renderNodes layout values ns = .ok front) :
    renderNodes layout values (ns ++ rest) = (renderNodes layout values rest).map (front ++ ·) := by
  induction ns generalizing front with
  | nil =>
    rw [renderNodes] at h
    cases h
    rw [List.nil_append]
    cases renderNodes layout values rest <;> simp [Except.map]
  | cons n ns ih =>
    rw [renderNodes] at h
    obtain ⟨first, hfirst, h⟩ := Outcome.bind_eq_ok.mp h
    obtain ⟨others, hothers, h⟩ := Outcome.bind_eq_ok.mp h
    cases h
    rw [List.cons_append, renderNodes_cons_of_ok hfirst, ih hothers]
    cases renderNodes layout values rest <;> simp [Except.map, String.append_assoc]

theorem renderNode_text (s : String) : renderNode layout values (.text s) = .ok s := by
  rw [renderNode]

theorem renderNodes_text (s : String) : renderNodes layout values [.text s] = .ok s := by
  rw [renderNodes_cons_of_ok (renderNode_text s), renderNodes]
  simp [Except.map]

theorem renderNode_value_of_ok {path : List String} {v : Json} (h : valueAt values path = .ok v)
    (how : Insertion) :
    renderNode layout values (.value path how) = .ok (insertion layout how v) := by
  rw [renderNode, h]
  rfl

theorem renderNode_whenSet_of_ok {path : List String} {v : Json} {body : List TemplateNode}
    {text : String} (h : valueAt values path = .ok v)
    (hbody : renderNodes layout values body = .ok text) :
    renderNode layout values (.whenSet path body) = .ok (if v.isSet then text else "") := by
  rw [renderNode, h]
  show (if v.isSet = true then renderNodes layout values body else .ok "") = _
  rw [hbody]
  split <;> rfl

/-- A repeated part gives one text for each item, in order. -/
theorem renderNode_forEach_of_forall₂ {name : String} {path : List String} {items : List Json}
    {body : List TemplateNode} {parts : List String}
    (hitems : valueAt values path = .ok (.arr items))
    (hparts : List.Forall₂ (fun item part =>
      renderNodes layout (roundValues values name item) body = .ok part) items.zipIdx parts) :
    renderNode layout values (.forEach name path body) = .ok (String.join parts) := by
  rw [renderNode, hitems]
  exact Outcome.bind_eq_ok.mpr ⟨.arr items, rfl, Outcome.bind_eq_ok.mpr ⟨items, rfl,
    Outcome.bind_eq_ok.mpr ⟨parts, Outcome.mapM_eq_ok.mpr hparts, rfl⟩⟩⟩

end Parts

/-! ## Texts around tags -/

/-- Away from tags a text is kept. -/
theorem settleText_away (layout : TemplateLayout) (lineStart : Bool) (s : String) :
    settleText layout ⟨false, lineStart⟩ false s = s := by
  simp [settleText, afterTag]

/-- Without tags no text is changed. -/
theorem settleNodes_of_no_tags (layout : TemplateLayout) {ns : List TemplateNode} {lineStart : Bool}
    (h : ∀ n ∈ ns, isTag n = false) : settleNodes layout ⟨false, lineStart⟩ false ns = ns := by
  induction ns generalizing lineStart with
  | nil => rw [settleNodes]
  | cons n ns ih =>
    rw [List.forall_mem_cons] at h
    have hnext : tagFollows false ns = false := by
      cases ns with
      | nil => rfl
      | cons m ms => exact h.2 m List.mem_cons_self
    cases n with
    | text s =>
      rw [settleNodes, ih h.2, hnext, settleText_away]
    | value path how =>
      rw [settleNodes, settleNode, isTag, ih h.2]
      simp
    | whenSet path body => exact absurd h.1 (by simp [isTag])
    | whenDefined path body => exact absurd h.1 (by simp [isTag])
    | forEach name path body => exact absurd h.1 (by simp [isTag])
    | comment => exact absurd h.1 (by simp [isTag])

/-- Nothing stands on the last line, so that no blanks can be dropped from it. -/
def EndsLine (cs : List Char) : Prop := cs.reverse.takeWhile (· != '\n') = []

theorem endsLine_nil : EndsLine [] := rfl

theorem lines_cons {first : String} {rest : List String} (h : rest ≠ []) :
    lines (first :: rest) = first ++ "\n" ++ lines rest := by
  cases rest with
  | nil => exact absurd rfl h
  | cons second rest => exact String.intercalate_cons_cons

theorem endsLine_behind_break (as : List Char) {bs : List Char} (h : EndsLine bs) :
    EndsLine (as ++ '\n' :: bs) := by
  have hbs : bs.reverse.takeWhile (· != '\n') = [] := h
  -- read from the end, a line break comes first: that of the text behind, or the one before it
  cases hrev : bs.reverse with
  | nil => simp [EndsLine, hrev]
  | cons c cs =>
    rw [hrev, List.takeWhile_cons] at hbs
    split at hbs
    · cases hbs
    · rename_i hc
      simp [EndsLine, hrev, hc]

/-- A text whose last line is empty ends a line. -/
theorem endsLine_lines {ls : List String} (h : ls.getLast? = some "") : EndsLine (lines ls).toList := by
  induction ls with
  | nil => cases h
  | cons first rest ih =>
    by_cases hrest : rest = []
    · subst hrest
      cases h
      exact endsLine_nil
    · -- the first line is followed by others, and the last of these is the last of all
      have hlast : rest.getLast? = some "" := by
        rwa [List.getLast?_cons_of_ne_nil hrest] at h
      rw [lines_cons hrest, String.append_assoc, String.toList_append, String.toList_append]
      exact endsLine_behind_break _ (ih hlast)

theorem beforeTag_of_endsLine {cs : List Char} (h : EndsLine cs) (lineStart : Bool) :
    beforeTag lineStart cs = cs := by
  have hlast : cs.reverse.takeWhile (· != '\n') = [] := h
  simp [beforeTag, hlast]

theorem beforeTag_of_no_break {cs : List Char} (h : '\n' ∉ cs) : beforeTag false cs = cs := by
  have hall : cs.reverse.takeWhile (· != '\n') = cs.reverse := by
    rw [List.takeWhile_eq_self_iff]
    intro c hc
    rw [bne_iff_ne]
    rintro rfl
    exact h (List.mem_reverse.mp hc)
  simp [beforeTag, hall]

/-- A text in the middle of a line is kept. -/
theorem settleText_within_line (layout : TemplateLayout) {s : String} (h : '\n' ∉ s.toList)
    (tag follows : Bool) : settleText layout ⟨tag, false⟩ follows s = s := by
  have hafter : afterTag layout ⟨tag, false⟩ s.toList = (s.toList, false) := by
    cases hcs : s.toList with
    | nil => simp [afterTag]
    | cons c cs =>
      have hc : c ≠ '\n' := by
        rintro rfl
        exact h (hcs ▸ List.mem_cons_self)
      simp [afterTag, hc]
  rw [settleText, hafter]
  simp only [beforeTag_of_no_break h, ite_self, String.ofList_toList]

/-- Behind a tag the line break is dropped. -/
theorem settleText_after_tag (s : String) (lineStart : Bool) :
    settleText {} ⟨true, lineStart⟩ false ("\n" ++ s) = s := by
  simp [settleText, afterTag, String.toList_append]

/-- Before a tag a text that ends its line is kept. -/
theorem settleText_before_tag {s : String} (h : EndsLine s.toList) (lineStart : Bool) :
    settleText {} ⟨false, lineStart⟩ true s = s := by
  simp [settleText, afterTag, beforeTag_of_endsLine h]

/-- Between tags the line break in front is dropped, and the line at the end is kept if it is
empty. -/
theorem settleText_between_tags {s : String} (h : EndsLine s.toList) (lineStart : Bool) :
    settleText {} ⟨true, lineStart⟩ true ("\n" ++ s) = s := by
  simp [settleText, afterTag, String.toList_append, beforeTag_of_endsLine h]

end Template
end Remedy
