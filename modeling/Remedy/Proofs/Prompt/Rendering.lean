import Remedy.Proofs.Action
import Remedy.Proofs.Json.Fields
import Remedy.Service.File

/-!
# Templates that can be filled in

Filling in a template fails when a name stands for nothing, or when something that has no items is
gone through. Whether it fails does not depend on the texts of the template, so not on how line breaks
and blanks around tags are settled. The prompts of the service ask only for values that they are
always given: the prompt for a batch can be filled in for all incidents that have a message and a
line, and the prompt for a summary for every solved incident.

Main results:

* `renders_settleNodes`: settling texts does not change whether a template can be filled in.
* `renders_migration`: the prompt for a batch can be filled in.
* `exists_summaryPrompt`: the prompt for a summary can be filled in.
-/

namespace Remedy

/-! ## Parts that can be filled in -/

namespace Template

/-- The part can be filled in. -/
def RendersNode (layout : TemplateLayout) (values : Fields) (n : TemplateNode) : Prop :=
  ∃ s, renderNode layout values n = .ok s

/-- The parts can be filled in. -/
def Renders (layout : TemplateLayout) (values : Fields) (ns : List TemplateNode) : Prop :=
  ∃ s, renderNodes layout values ns = .ok s

section Renders

variable {layout : TemplateLayout} {values : Fields} {path : List String} {body : List TemplateNode}

@[simp]
theorem renders_nil : Renders layout values [] := ⟨"", by rw [renderNodes]⟩

@[simp]
theorem renders_cons {n : TemplateNode} {rest : List TemplateNode} :
    Renders layout values (n :: rest) ↔ RendersNode layout values n ∧ Renders layout values rest := by
  simp only [Renders, RendersNode, renderNodes, Outcome.bind_eq_ok]
  constructor
  · rintro ⟨_, front, hfront, back, hback, -⟩
    exact ⟨⟨front, hfront⟩, back, hback⟩
  · rintro ⟨⟨front, hfront⟩, back, hback⟩
    exact ⟨_, front, hfront, back, hback, rfl⟩

@[simp]
theorem rendersNode_text (s : String) : RendersNode layout values (.text s) :=
  ⟨s, by rw [renderNode]⟩

@[simp]
theorem rendersNode_comment : RendersNode layout values .comment := ⟨"", by rw [renderNode]⟩

@[simp]
theorem rendersNode_value {how : Insertion} :
    RendersNode layout values (.value path how) ↔ ∃ v, valueAt values path = .ok v := by
  simp only [RendersNode, renderNode, Outcome.bind_eq_ok]
  constructor
  · rintro ⟨_, v, hv, -⟩
    exact ⟨v, hv⟩
  · rintro ⟨v, hv⟩
    exact ⟨_, v, hv, rfl⟩

@[simp]
theorem rendersNode_whenSet :
    RendersNode layout values (.whenSet path body) ↔
      ∃ v, valueAt values path = .ok v ∧ (v.isSet = true → Renders layout values body) := by
  simp only [RendersNode, renderNode, Outcome.bind_eq_ok]
  constructor
  · rintro ⟨s, v, hv, hbody⟩
    refine ⟨v, hv, fun hset => ⟨s, ?_⟩⟩
    rwa [if_pos hset] at hbody
  · rintro ⟨v, hv, hbody⟩
    by_cases hset : v.isSet = true
    · obtain ⟨s, hs⟩ := hbody hset
      exact ⟨s, v, hv, by rw [if_pos hset, hs]⟩
    · exact ⟨"", v, hv, by rw [if_neg hset]; rfl⟩

@[simp]
theorem rendersNode_whenDefined :
    RendersNode layout values (.whenDefined path body) ↔
      ∃ l, lookup values path = .ok l ∧ ∀ v, l = .found v → Renders layout values body := by
  simp only [RendersNode, renderNode, Outcome.bind_eq_ok]
  constructor
  · rintro ⟨s, l, hl, hbody⟩
    refine ⟨l, hl, ?_⟩
    rintro v rfl
    exact ⟨s, hbody⟩
  · rintro ⟨l, hl, hbody⟩
    cases l with
    | found v =>
      obtain ⟨s, hs⟩ := hbody v rfl
      exact ⟨s, _, hl, hs⟩
    | undefined text => exact ⟨"", _, hl, rfl⟩

/-- The values for one round of a repeated part. -/
def roundValues (values : Fields) (name : String) (item : Json × Nat) : Fields :=
  (values.set name item.1).set "loop" (.obj [("index0", .int item.2)])

@[simp]
theorem rendersNode_forEach {name : String} :
    RendersNode layout values (.forEach name path body) ↔
      ∃ v items, valueAt values path = .ok v ∧ itemsOf v = .ok items ∧
        ∀ item ∈ items.zipIdx, Renders layout (roundValues values name item) body := by
  simp only [RendersNode, renderNode, Outcome.bind_eq_ok]
  constructor
  · rintro ⟨_, v, hv, items, hitems, parts, hparts, -⟩
    refine ⟨v, items, hv, hitems, fun item hitem => ?_⟩
    obtain ⟨s, -, hs⟩ := Outcome.exists_of_mapM_eq_ok hparts hitem
    exact ⟨s, hs⟩
  · rintro ⟨v, items, hv, hitems, hall⟩
    obtain ⟨parts, hparts⟩ := Outcome.exists_mapM_eq_ok hall
    exact ⟨_, v, hv, items, hitems, parts, hparts, rfl⟩

end Renders

mutual

theorem rendersNode_settleNode (layout : TemplateLayout) (values : Fields) :
    ∀ n : TemplateNode,
      RendersNode layout values (settleNode layout n) ↔ RendersNode layout values n
  | .text s => by rw [settleNode]
  | .value path how => by rw [settleNode]
  | .whenSet path body => by
    simp only [settleNode, rendersNode_whenSet, renders_settleNodes layout values body]
  | .whenDefined path body => by
    simp only [settleNode, rendersNode_whenDefined, renders_settleNodes layout values body]
  | .forEach name path body => by
    simp only [settleNode, rendersNode_forEach,
      fun item => renders_settleNodes layout (roundValues values name item) body]
  | .comment => by rw [settleNode]

/-- Settling texts does not change whether parts can be filled in. -/
theorem renders_settleNodes (layout : TemplateLayout) (values : Fields) :
    ∀ (ns : List TemplateNode) (before : Before) (closing : Bool),
      Renders layout values (settleNodes layout before closing ns) ↔ Renders layout values ns
  | [], before, closing => by rw [settleNodes]
  | n :: rest, before, closing => by
    have hn := rendersNode_settleNode layout values n
    have hrest := renders_settleNodes layout values rest
    cases n <;> simp only [settleNodes, renders_cons, rendersNode_text, hn, hrest]

end

/-- A template whose parts can be filled in can be filled in. -/
theorem exists_render {layout : TemplateLayout} {values : Fields} {template : Template}
    (h : Renders layout values template) : ∃ text, render layout template values = .ok text :=
  (renders_settleNodes layout values template ⟨false, true⟩ false).mpr h

theorem lookup_member {values : Fields} {name part : String} {v : Json}
    (hv : values.get? name = some v) : lookup values [name, part] = .ok (member v part) := by
  rw [lookup, hv]
  rfl

theorem valueAt_member {values : Fields} {name part : String} {v w : Json}
    (hv : values.get? name = some v) (hw : v.get? part = some w) :
    valueAt values [name, part] = .ok w := by
  rw [valueAt, lookup_member hv, member, hw]
  rfl

theorem get?_roundValues {name : String} (hname : name ≠ "loop") (values : Fields)
    (item : Json × Nat) : (roundValues values name item).get? name = some item.1 := by
  rw [roundValues, Fields.get?_set, if_neg hname, Fields.get?_set, if_pos rfl]

end Template

/-! ## The prompt for a batch -/

/-- The value is an object with a message and a line. -/
def HasMessage (v : Json) : Prop :=
  ∃ message line, v.get? "message" = some message ∧ v.get? "line_number" = some line

theorem hasMessage_fields (i : ExtendedIncident) : HasMessage (.obj i.fields) :=
  ⟨.str i.message, .int i.line, rfl, rfl⟩

theorem HasMessage.set {fields : Fields} (h : HasMessage (.obj fields)) (key : String)
    (hmessage : key ≠ "message") (hline : key ≠ "line_number") (v : Json) :
    HasMessage (.obj (fields.set key v)) := by
  obtain ⟨message, line, hm, hl⟩ := h
  refine ⟨message, line, ?_, ?_⟩
  · show (fields.set key v).get? "message" = _
    rw [Fields.get?_set, if_neg hmessage.symm]
    exact hm
  · show (fields.set key v).get? "line_number" = _
    rw [Fields.get?_set, if_neg hline.symm]
    exact hl

namespace Prompt

open Template

/-- The prompt for a batch can be filled in. -/
theorem renders_migration (model : Model) (fileName language contents : String)
    {incidents : List Json} (h : ∀ v ∈ incidents, HasMessage v) :
    Renders {} (Service.batchValues model fileName language contents incidents) migration := by
  unfold migration migrationWith sourceFile issue header footer
  simp only [List.cons_append, List.nil_append, renders_cons, renders_nil, rendersNode_text,
    rendersNode_value, rendersNode_whenSet, rendersNode_forEach, rendersNode_whenDefined, true_and,
    and_true, implies_true]
  refine ⟨⟨_, rfl⟩, ⟨_, rfl⟩, ⟨_, rfl⟩, ⟨_, rfl⟩, ⟨.arr incidents, incidents, rfl, rfl, ?_⟩, ⟨_, rfl⟩⟩
  intro item hitem
  obtain ⟨message, line, hmessage, hline⟩ := h item.1 (List.fst_mem_of_mem_zipIdx hitem)
  have hround := get?_roundValues (show "incident" ≠ "loop" by decide)
    (Service.batchValues model fileName language contents incidents) item
  refine ⟨⟨_, rfl⟩, ⟨message, valueAt_member hround hmessage⟩, ⟨line, valueAt_member hround hline⟩,
    ⟨_, lookup_member hround, fun v hfound => ⟨v, ?_⟩⟩⟩
  -- the part about a solution appears only if there is one, and then it can be filled in
  rw [valueAt, lookup_member hround, hfound]
  rfl

end Prompt

/-! ## The prompt for a summary -/

/-- The prompt for a summary can be filled in. -/
theorem Producer.exists_summaryPrompt (style : SummaryStyle) (row : IncidentRow) (s : Solution) :
    ∃ text, summaryPrompt style row s = .ok text := by
  refine Template.exists_render ?_
  unfold Prompt.summary Prompt.sourceFile Prompt.header Prompt.footer
  simp only [List.cons_append, List.nil_append, Template.renders_cons, Template.renders_nil,
    Template.rendersNode_text, Template.rendersNode_value, Template.rendersNode_whenSet, true_and,
    and_true, implies_true]
  exact ⟨⟨_, rfl⟩, ⟨_, rfl⟩, ⟨_, rfl⟩, ⟨_, rfl⟩, ⟨_, rfl⟩, ⟨_, rfl⟩, ⟨_, rfl⟩, ⟨_, rfl⟩, ⟨_, rfl⟩,
    ⟨_, rfl⟩⟩

end Remedy
