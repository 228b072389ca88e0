import XmlTemplate.Proofs.Evaluation
import XmlTemplate.Proofs.Missing
import XmlTemplate.Proofs.Strict
import XmlTemplate.Proofs.Table

/-!
# Where degradations happen

`strict_render_stops_at_first_degradation` says that a strict render does what the lenient one does
up to its first degradation, and fails with that. The order is the one in which a lenient render
does things: first the table of variables is built, then the elements are visited, and in a text an
unknown variable is noticed before the paths to its left are looked up.

The error carries the path of the place where the lenient render degraded. So that this says
something, `Template.Degrades` tells the places without running the render: a variable among the
merged declarations, or an element, which sees certain data (`Visits`), with an expression whose
text misses something in them (`Value.Degrades`).
-/

namespace XmlTemplate

/-- Where an expression is evaluated for a place, its degradations get that place. -/
theorem degraded_mem_locate {expression data : Value} {table : Variables} {place : String}
    {degradation : Degradation} {path : Option String}
    (h : .degraded degradation path
      ∈ ((expression.evaluate .lenient table data).locate place).events) :
    path = Path.place? place ∧ expression.Degrades table data degradation := by
  obtain ⟨event, member, located⟩ := List.mem_map.mp h
  obtain ⟨degradation', rfl⟩ := Value.evaluate_unplaced .lenient table data expression event member
  simp only [Event.locate, Event.degraded.injEq] at located
  obtain ⟨rfl, rfl⟩ := located
  exact ⟨rfl, Value.degraded_mem_evaluate_iff.mp member⟩

/-! ## The elements that a render visits -/

/-- An element where it stands, with the data that it sees. -/
structure Visit where
  name : String
  path : String
  data : Value
  element : Element

/-- Visiting the first element leads to visiting the second, which is the first or inside it. A
group shows its children what it sees itself, a sequence shows them one of the items. -/
inductive Visits : Visit → Visit → Prop where
  | self {visit : Visit} : Visits visit visit
  | group {name path inner : String} {data : Value} {children : Content} {child : Element}
      {visit : Visit} : (inner, child) ∈ children →
      Visits ⟨inner, Path.child path inner, data, child⟩ visit →
      Visits ⟨name, path, data, .group children⟩ visit
  | sequence {name path inner : String} {data item : Value} {items : List Value}
      {entries : List Content} {content : Content} {child : Element} {visit : Visit} :
      data.lookup? name.toList = some (.list items) → item ∈ items → content ∈ entries →
      (inner, child) ∈ content → Visits ⟨inner, Path.child path inner, item, child⟩ visit →
      Visits ⟨name, path, data, .sequence entries⟩ visit

/-- The expressions that belong to an element itself and not to an element inside it. -/
def Element.expressions : Element → List Value
  | .leaf expression => [expression]
  | .attributed expression attributes => expression :: attributes.map Attribute.expression
  | .group _ => []
  | .sequence _ => []

/-- The degradation is one of the visited element itself: of one of its expressions, or that its
data have no list for it. -/
inductive Visit.Degrades (table : Variables) (visit : Visit) (degradation : Degradation) : Prop where
  | expression {expression : Value} : expression ∈ visit.element.expressions →
      expression.Degrades table visit.data degradation → Degrades table visit degradation
  | noList {entries : List Content} : visit.element = .sequence entries →
      (∀ items, visit.data.lookup? visit.name.toList ≠ some (.list items)) →
      degradation = .sequenceWithoutList visit.path
        ((visit.data.lookup? visit.name.toList).map Value.kind) →
      Degrades table visit degradation

/-- An element of the content, which stands at the path `outer` and sees the data, or one inside it
has the degradation and stands at the path `place`. -/
def Content.Degrades (table : Variables) (outer : String) (data : Value) (content : Content)
    (degradation : Degradation) (place : String) : Prop :=
  ∃ name element visit, (name, element) ∈ content
    ∧ Visits ⟨name, Path.child outer name, data, element⟩ visit
    ∧ visit.path = place ∧ visit.Degrades table degradation

theorem Content.Degrades.cons {table : Variables} {outer place : String} {data : Value}
    {content : Content} {degradation : Degradation}
    (h : Content.Degrades table outer data content degradation place) (named : String × Element) :
    Content.Degrades table outer data (named :: content) degradation place := by
  obtain ⟨name, element, visit, member, visits⟩ := h
  exact ⟨name, element, visit, List.mem_cons_of_mem _ member, visits⟩

/-! ## What writes does not degrade -/

section Writing

variable {degradation : Degradation} {path : Option String}

theorem not_degraded_mem_write {markup : Xml.Markup} :
    .degraded degradation path ∉ (Run.write markup).events := by
  simp [Run.write, Run.emit]

theorem not_degraded_mem_enter (scope : Scope) (outer : String) (depth : Nat) :
    .degraded degradation path ∉ (scope.enter outer depth).events := by
  rcases scope.enter_cases outer depth with ⟨_, _, _, tooDeep⟩ | entered
  · simp [tooDeep, Run.fail]
  · simp [entered, Run.emit]

/-- The degradations of an element with its tags are those between the tags. -/
theorem degraded_mem_writeElement {name : String} {attributes : List Xml.Attribute}
    {inside : Run Unit}
    (h : .degraded degradation path ∈ (writeElement name attributes inside).events) :
    .degraded degradation path ∈ inside.events := by
  rcases Run.mem_events_bind h with h | ⟨_, _, h⟩
  · exact absurd h not_degraded_mem_write
  · rcases Run.mem_events_bind h with h | ⟨_, _, h⟩
    · exact h
    · exact absurd h not_degraded_mem_write

end Writing

theorem mem_events_forEachItem {event : Event} {action : Value → Run Unit} {items : List Value}
    (h : event ∈ (forEachItem action items).events) :
    ∃ item ∈ items, event ∈ (action item).events := by
  induction items with
  | nil => exact absurd h (by simp [forEachItem])
  | cons item rest ih =>
      rcases Run.mem_events_bind h with h | ⟨_, _, h⟩
      · exact ⟨item, List.mem_cons_self, h⟩
      · obtain ⟨item', member, h⟩ := ih h
        exact ⟨item', List.mem_cons_of_mem _ member, h⟩

/-! ## The elements are where the degradations say -/

section Walk

variable {table : Variables} {limit : Option Nat} {degradation : Degradation}
  {path : Option String}

theorem degraded_mem_attributes {place : String} {data : Value} {attributes : List Attribute}
    (h : .degraded degradation path
      ∈ (Scope.attributes ⟨.lenient, table, limit⟩ place data attributes).events) :
    path = Path.place? place ∧ ∃ expression ∈ attributes.map Attribute.expression,
      expression.Degrades table data degradation := by
  induction attributes with
  | nil => exact absurd h (by simp [Scope.attributes])
  | cons first rest ih =>
      rcases Run.mem_events_bind h with h | ⟨_, _, h⟩
      · obtain ⟨placed, degrades⟩ := degraded_mem_locate h
        exact ⟨placed, first.expression, by simp, degrades⟩
      · rcases Run.mem_events_bind h with h | ⟨_, _, h⟩
        · obtain ⟨placed, expression, member, degrades⟩ := ih h
          exact ⟨placed, expression, List.mem_cons_of_mem _ member, degrades⟩
        · exact absurd h (by simp)

mutual

theorem degraded_mem_renderElements {outer : String} {depth : Nat} {data : Value} :
    ∀ {content : List (String × Element)},
      .degraded degradation path
        ∈ (renderElements ⟨.lenient, table, limit⟩ outer depth data content).events →
      ∃ place, path = Path.place? place
        ∧ Content.Degrades table outer data content degradation place
  | [], h => absurd h (by simp [renderElements])
  | (name, element) :: rest, h => by
      rw [renderElements] at h
      rcases Run.mem_events_bind h with h | ⟨_, _, h⟩
      · obtain ⟨visit, placed, visits, degrades⟩ := degraded_mem_renderElement h
        exact ⟨visit.path, placed, name, element, visit, List.mem_cons_self, visits, rfl, degrades⟩
      · obtain ⟨place, placed, degrades⟩ := degraded_mem_renderElements h
        exact ⟨place, placed, degrades.cons _⟩

theorem degraded_mem_renderElement {name outer : String} {depth : Nat} {data : Value} :
    ∀ {element : Element},
      .degraded degradation path
        ∈ (renderElement ⟨.lenient, table, limit⟩ name outer depth data element).events →
      ∃ visit, path = Path.place? visit.path ∧ Visits ⟨name, outer, data, element⟩ visit
        ∧ visit.Degrades table degradation
  | .leaf expression, h => by
      rw [renderElement] at h
      rcases Run.mem_events_bind h with h | ⟨_, _, h⟩
      · obtain ⟨placed, degrades⟩ := degraded_mem_locate h
        exact ⟨_, placed, .self, .expression (List.mem_singleton_self _) degrades⟩
      · exact absurd (degraded_mem_writeElement h) not_degraded_mem_write
  | .attributed expression attributes, h => by
      rw [renderElement] at h
      rcases Run.mem_events_bind h with h | ⟨_, _, h⟩
      · obtain ⟨placed, degrades⟩ := degraded_mem_locate h
        exact ⟨_, placed, .self, .expression List.mem_cons_self degrades⟩
      · rcases Run.mem_events_bind h with h | ⟨_, _, h⟩
        · obtain ⟨placed, expression', member, degrades⟩ := degraded_mem_attributes h
          exact ⟨_, placed, .self, .expression (List.mem_cons_of_mem _ member) degrades⟩
        · exact absurd (degraded_mem_writeElement h) not_degraded_mem_write
  | .group children, h => by
      rw [renderElement] at h
      rcases Run.mem_events_bind (degraded_mem_writeElement h) with h | ⟨_, _, h⟩
      · exact absurd h (not_degraded_mem_enter _ _ _)
      · obtain ⟨place, placed, inner, child, visit, member, visits, rfl, degrades⟩ :=
          degraded_mem_renderElements h
        exact ⟨visit, placed, .group member visits, degrades⟩
  | .sequence entries, h => by
      rw [renderElement] at h
      split at h
      · rename_i items found
        obtain ⟨item, listed, h⟩ := mem_events_forEachItem (degraded_mem_writeElement h)
        obtain ⟨place, placed, content, entry, inner, child, visit, member, visits, rfl,
          degrades⟩ := degraded_mem_renderEntries h
        exact ⟨visit, placed, .sequence found listed entry member visits, degrades⟩
      · rename_i noList
        simp only [Run.degrade, Run.locate, Run.emit, List.map_cons, List.map_nil,
          List.mem_singleton, Event.locate, Event.degraded.injEq] at h
        obtain ⟨rfl, rfl⟩ := h
        exact ⟨_, rfl, .self, .noList rfl noList rfl⟩

theorem degraded_mem_renderEntries {outer : String} {depth : Nat} {item : Value} :
    ∀ {entries : List (List (String × Element))},
      .degraded degradation path
        ∈ (renderEntries ⟨.lenient, table, limit⟩ outer depth item entries).events →
      ∃ place, path = Path.place? place ∧ ∃ content ∈ entries,
        Content.Degrades table outer item content degradation place
  | [], h => absurd h (by simp [renderEntries])
  | content :: rest, h => by
      rw [renderEntries] at h
      rcases Run.mem_events_bind h with h | ⟨_, _, h⟩
      · exact absurd h (not_degraded_mem_enter _ _ _)
      · rcases Run.mem_events_bind h with h | ⟨_, _, h⟩
        · obtain ⟨place, placed, degrades⟩ := degraded_mem_renderElements h
          exact ⟨place, placed, content, List.mem_cons_self, degrades⟩
        · obtain ⟨place, placed, content', entry, degrades⟩ := degraded_mem_renderEntries h
          exact ⟨place, placed, content', List.mem_cons_of_mem _ entry, degrades⟩

end

end Walk

/-! ## The whole render -/

/-- A degradation while a table is built is one of a declared expression, under the table that the
declarations before it have built. -/
theorem degraded_mem_extend {table : Variables} {declarations : Declarations}
    {degradation : Degradation} {path : Option String}
    (h : .degraded degradation path
      ∈ (Variables.extend .lenient table declarations).events) :
    ∃ before name expression after between,
      declarations = before ++ (name, expression) :: after
        ∧ (Variables.extend .lenient table before).result = .ok between
        ∧ path = Path.place? (Path.child "variables" name)
        ∧ expression.Degrades between .null degradation := by
  induction declarations generalizing table with
  | nil => exact absurd h (by simp [Variables.extend])
  | cons declaration rest ih =>
      obtain ⟨name, expression⟩ := declaration
      rcases Run.mem_events_bind h with h | ⟨value, evaluated, h⟩
      · obtain ⟨placed, degrades⟩ := degraded_mem_locate h
        exact ⟨[], name, expression, rest, table, rfl, rfl, placed, degrades⟩
      · obtain ⟨before, name', expression', after, between, split, built, placed, degrades⟩ := ih h
        refine ⟨(name, expression) :: before, name', expression', after, between, ?_, ?_, placed,
          degrades⟩
        · rw [split, List.cons_append]
        · exact Variables.extend_cons_eq_ok.mpr
            ⟨value, Run.result_locate_eq_ok.mp evaluated, built⟩

/-- What degrades in a render, with its path: a variable while the table is built, or an element
while the elements are visited. -/
inductive Template.Degrades (template : Template) (request : Request)
    (degradation : Degradation) : String → Prop where
  | variable {before after : Declarations} {name : String} {expression : Value}
      {table : Variables} :
      Declarations.merge request.declarations template.declarations
        = before ++ (name, expression) :: after →
      (Variables.extend .lenient template.globals before).result = .ok table →
      expression.Degrades table .null degradation →
      Degrades template request degradation (Path.child "variables" name)
  | element {place : String} {data : Value} {table : Variables} : request.data = .ok data →
      (template.table .lenient request.declarations).result = .ok table →
      Content.Degrades table "" data template.elements degradation place →
      Degrades template request degradation place

theorem degraded_mem_render {template : Template} {request : Request}
    {degradation : Degradation} {path : Option String}
    (h : .degraded degradation path ∈ (template.render .lenient request).events) :
    ∃ place, path = Path.place? place ∧ template.Degrades request degradation place := by
  rcases Run.mem_events_bind h with h | ⟨data, converted, h⟩
  · exact absurd h (by simp [Run.ofExcept])
  rcases Run.mem_events_bind h with h | ⟨table, built, h⟩
  · obtain ⟨before, name, expression, after, between, split, built, placed, degrades⟩ :=
      degraded_mem_extend h
    exact ⟨_, placed, .variable split built degrades⟩
  rcases Run.mem_events_bind h with h | ⟨_, _, h⟩
  · exact absurd h (by simp [Run.emit])
  rcases Run.mem_events_bind (degraded_mem_writeElement h) with h | ⟨_, _, h⟩
  · exact absurd h (not_degraded_mem_enter _ _ _)
  obtain ⟨place, placed, degrades⟩ := degraded_mem_renderElements h
  exact ⟨place, placed, .element (Request.data_of_converted converted) built degrades⟩

/--
**Strict mode is lenient mode, stopped at the first degradation.**

The strict render is the lenient one if that has no degradation. Otherwise it does what the lenient
one does before the first of them, and fails with that one at its path.
-/
theorem strict_render_stops_at_first_degradation (template : Template) (request : Request) :
    ((∀ degradation path,
        .degraded degradation path ∉ (template.render .lenient request).events) →
      template.render .strict request = template.render .lenient request) ∧
    ∀ before degradation path after,
      (template.render .lenient request).events
        = before ++ .degraded degradation path :: after →
      (∀ earlier place, .degraded earlier place ∉ before) →
      (template.render .strict request).result = .error ⟨.degraded degradation, path⟩
        ∧ (template.render .strict request).events = before
        ∧ (template.render .strict request).written = before.flatMap Event.written
        ∧ ∃ place, path = Path.place? place ∧ template.Degrades request degradation place := by
  have free : ∀ events : List Event,
      (∀ degradation path, .degraded degradation path ∉ events) →
      ∀ event ∈ events, event.refusal? = none := by
    intro events none event member
    cases event with
    | degraded degradation path => exact absurd member (none degradation path)
    | wrote | entered | skippedAttribute | compiled | rendering => rfl
  rw [Template.render_strictly]
  refine ⟨fun none => Run.stopAt_of_none (free _ none), ?_⟩
  intro before degradation path after split none
  have member : .degraded degradation path ∈ (template.render .lenient request).events := by
    rw [split]
    exact List.mem_append_right _ List.mem_cons_self
  rw [Run.strictly, Run.stopAt_of_split split (free _ none) rfl]
  exact ⟨rfl, rfl, rfl, degraded_mem_render member⟩

/-- A template with a text in which both a path and a variable are unknown. -/
def gappedTemplate : Template where
  root := "r"
  declarations := []
  globals := .empty
  elements := [
    ("a", .leaf (.string "x")),
    ("g", .group [("b", .leaf (.string "${x}$${Y}"))])]

/-- What happens before the lenient render misses anything. -/
def gappedStart : List Event :=
  [.rendering "r" 0, .wrote (.startTag "r" []), .entered "" 0, .wrote (.startTag "a" []),
    .wrote (.text "x"), .wrote (.endTag "a"), .wrote (.startTag "g" []), .entered "g" 1]

/-- The variable is what the strict render fails at, for the lenient one misses it first. -/
theorem strict_render_stops_gapped :
    (∃ after, (gappedTemplate.render .lenient {}).events
        = gappedStart ++ .degraded (.unknownVariable "Y") (some "g.b") :: after)
      ∧ (gappedTemplate.render .strict {}).result
        = .error ⟨.degraded (.unknownVariable "Y"), some "g.b"⟩
      ∧ (gappedTemplate.render .strict {}).events = gappedStart
      ∧ String.ofList (gappedTemplate.render .strict {}).written = "<r><a>x</a><g>"
      ∧ gappedTemplate.Degrades {} (.unknownVariable "Y") "g.b" := by
  have split : (gappedTemplate.render .lenient {}).events
      = gappedStart ++ .degraded (.unknownVariable "Y") (some "g.b")
        :: [.degraded (.unresolvedPath "x") (some "g.b"), .wrote (.startTag "b" []),
          .wrote (.text "$${Y}"), .wrote (.endTag "b"), .wrote (.endTag "g"),
          .wrote (.endTag "r")] := by
    decide +kernel
  obtain ⟨failed, stopped, wrote, place, placed, degrades⟩ :=
    (strict_render_stops_at_first_degradation gappedTemplate {}).2 _ _ _ _ split
      (by simp [gappedStart])
  have here : place = "g.b" := by
    rw [Path.place?] at placed
    split at placed
    · cases placed
    · exact (Option.some.inj placed).symm
  refine ⟨⟨_, split⟩, failed, stopped, ?_, here ▸ degrades⟩
  rw [wrote]
  decide +kernel

end XmlTemplate
