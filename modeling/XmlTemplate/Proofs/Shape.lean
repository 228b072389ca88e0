import XmlTemplate.Proofs.Comparison
import XmlTemplate.Proofs.Failure
import XmlTemplate.Proofs.Related

/-!
# Markup does not depend on scalar data

Which elements a render writes, and whether it fails, is settled by the template and by the shape of
the data: by which paths lead to lists, and how long these are. The scalars in the data, and so the
values of all expressions, come into text and into the values of attributes, and nowhere else. Two
lenient renders of data of the same shape are compared, piece by piece, in what their output is once
its texts are taken out (`Run.SameMarkup`).
-/

namespace XmlTemplate

/-! ## Markup without its texts -/

/-- The piece of markup without its texts: of a text nothing is left, and of an attribute the
name. -/
def Xml.Markup.skeleton : Xml.Markup → Xml.Markup
  | .startTag name attributes => .startTag name (attributes.map fun a => ⟨a.name, ""⟩)
  | .text _ => .text ""
  | .endTag name => .endTag name

/-- The texts in the piece, which the skeleton lacks. -/
def Xml.Markup.texts : Xml.Markup → List String
  | .startTag _ attributes => attributes.map Xml.Attribute.value
  | .text content => [content]
  | .endTag _ => []

theorem Xml.all_escapeChar (d : Char) :
    (Xml.escapeChar d).all (fun c => !(['<', '>', '"', '\''].contains c)) = true := by
  unfold Xml.escapeChar
  split
  · rfl
  · rfl
  · rfl
  · rfl
  · rfl
  · simp_all

/-- No text is written with a bracket or a quote in it, whatever it says. -/
theorem Xml.not_mem_escape {c : Char} (special : c ∈ ['<', '>', '"', '\'']) (s : List Char) :
    c ∉ Xml.escape s := by
  intro member
  obtain ⟨d, _, member⟩ := List.mem_flatMap.mp member
  have harmless := List.all_eq_true.mp (Xml.all_escapeChar d) c member
  rw [List.contains_iff_mem.mpr special] at harmless
  cases harmless

/-- The markup that is written, if some is. -/
def Event.markup? : Event → Option Xml.Markup
  | .wrote markup => some markup
  | _ => none

namespace Run

variable {α β : Type}

/-- The markup that the run writes, piece by piece. -/
def markup (run : Run α) : List Xml.Markup :=
  run.events.filterMap Event.markup?

/-- The output is that markup. -/
theorem written_eq_markup (run : Run α) :
    run.written = run.markup.flatMap Xml.Markup.written := by
  rw [written, markup]
  induction run.events with
  | nil => rfl
  | cons event rest ih =>
      cases event with
      | wrote markup => exact congrArg (markup.written ++ ·) ih
      | degraded | entered | skippedAttribute | compiled | rendering => exact ih

theorem markup_bind_of_ok {run : Run α} {a : α} (h : run.result = .ok a) (next : α → Run β) :
    (run >>= next).markup = run.markup ++ (next a).markup := by
  rw [bind_of_ok h, markup, List.filterMap_append]
  rfl

theorem OnlyDegrades.markup_eq_nil {run : Run α} (h : run.OnlyDegrades) : run.markup = [] := by
  refine List.filterMap_eq_nil_iff.mpr fun event member => ?_
  obtain ⟨degradation, path, rfl⟩ := h event member
  rfl

/-- Behind a run in which only degradations happen, everything is as if there was only what
follows. -/
theorem OnlyDegrades.bind_of_ok {run : Run α} {a : α} (h : run.OnlyDegrades)
    (success : run.result = .ok a) (next : α → Run β) :
    (run >>= next).result = (next a).result ∧ (run >>= next).markup = (next a).markup := by
  rw [markup_bind_of_ok success, h.markup_eq_nil, Run.bind_of_ok success]
  exact ⟨rfl, rfl⟩

/-- The runs end in the same way, and what they write differs at most in its texts. -/
structure SameMarkup (run run' : Run Unit) : Prop where
  result : run.result = run'.result
  markup : run.markup.map Xml.Markup.skeleton = run'.markup.map Xml.Markup.skeleton

theorem SameMarkup.rfl {run : Run Unit} : run.SameMarkup run :=
  ⟨Eq.refl _, Eq.refl _⟩

/-- Two runs that begin in the same way may go on differently, as long as it is with the same
markup. -/
theorem SameMarkup.after (run : Run α) {next next' : α → Run Unit}
    (h : ∀ a, (next a).SameMarkup (next' a)) : (run >>= next).SameMarkup (run >>= next') := by
  cases hr : run.result with
  | ok a =>
      obtain ⟨result, markup⟩ := h a
      constructor
      · rw [Run.bind_of_ok hr, Run.bind_of_ok hr]
        exact result
      · rw [markup_bind_of_ok hr, markup_bind_of_ok hr, List.map_append, List.map_append, markup]
  | error e =>
      rw [bind_of_error hr, bind_of_error hr]
      exact .rfl

theorem SameMarkup.seq {run run' next next' : Run Unit} (h : run.SameMarkup run')
    (hnext : next.SameMarkup next') : (do run; next : Run Unit).SameMarkup (do run'; next') := by
  obtain ⟨result, markup⟩ := h
  cases hr : run.result with
  | ok done =>
      have hr' : run'.result = .ok done := result ▸ hr
      constructor
      · rw [Run.bind_of_ok hr, Run.bind_of_ok hr']
        exact hnext.result
      · rw [markup_bind_of_ok hr, markup_bind_of_ok hr', List.map_append, List.map_append, markup,
          hnext.markup]
  | error e =>
      have hr' : run'.result = .error e := result ▸ hr
      rw [bind_of_error hr, bind_of_error hr']
      exact ⟨Eq.refl _, markup⟩

end Run

/-! ## Elements with text -/

section Text

variable (table : Variables) (limit : Option Nat) (name path : String) (depth : Nat)
  (data expression : Value)

theorem Scope.exists_evaluate_lenient :
    ∃ value, (Scope.evaluate ⟨.lenient, table, limit⟩ path data expression).result
      = .ok value := by
  obtain ⟨value, evaluated⟩ := Value.exists_evaluate_lenient table data expression
  exact ⟨value, Run.result_locate_eq_ok.mpr evaluated⟩

/-- In lenient mode all attributes have values, and their names are those of the template. -/
theorem Scope.exists_attributes_lenient (attributes : List Attribute) :
    ∃ evaluated, (Scope.attributes ⟨.lenient, table, limit⟩ path data attributes).result
        = .ok evaluated
      ∧ evaluated.map Xml.Attribute.name = attributes.map Attribute.name := by
  induction attributes with
  | nil => exact ⟨[], rfl, rfl⟩
  | cons first rest ih =>
      obtain ⟨value, evaluated⟩ :=
        Scope.exists_evaluate_lenient table limit path data first.expression
      obtain ⟨more, evaluatedRest, names⟩ := ih
      refine ⟨⟨first.name, value.display⟩ :: more, ?_, congrArg (first.name :: ·) names⟩
      rw [Scope.attributes, Run.bind_of_ok evaluated, Run.bind_of_ok evaluatedRest]
      rfl

/-- A leaf is written whatever its expression, with some text between its tags. -/
theorem markup_leaf : ∃ text,
    (renderElement ⟨.lenient, table, limit⟩ name path depth data (.leaf expression)).result
        = .ok ()
      ∧ (renderElement ⟨.lenient, table, limit⟩ name path depth data (.leaf expression)).markup
        = [.startTag name [], .text text, .endTag name] := by
  obtain ⟨value, evaluated⟩ := Scope.exists_evaluate_lenient table limit path data expression
  rw [renderElement]
  obtain ⟨result, markup⟩ := (Scope.evaluate_onlyDegrades _ path data expression).bind_of_ok
    evaluated fun value => writeElement name [] (Run.write (.text value.display))
  exact ⟨value.display, result, markup⟩

/-- So is an element with attributes, all of which are in its start tag. -/
theorem markup_attributed (attributes : List Attribute) : ∃ evaluated text,
    evaluated.map Xml.Attribute.name = attributes.map Attribute.name
      ∧ (renderElement ⟨.lenient, table, limit⟩ name path depth data
        (.attributed expression attributes)).result = .ok ()
      ∧ (renderElement ⟨.lenient, table, limit⟩ name path depth data
          (.attributed expression attributes)).markup
        = [.startTag name evaluated, .text text, .endTag name] := by
  obtain ⟨value, first⟩ := Scope.exists_evaluate_lenient table limit path data expression
  obtain ⟨evaluated, second, names⟩ :=
    Scope.exists_attributes_lenient table limit path data attributes
  rw [renderElement]
  obtain ⟨result, markup⟩ := (Scope.evaluate_onlyDegrades _ path data expression).bind_of_ok first
    fun value => do
      let evaluated ← Scope.attributes ⟨.lenient, table, limit⟩ path data attributes
      writeElement name evaluated (Run.write (.text value.display))
  obtain ⟨result', markup'⟩ := (Scope.attributes_onlyDegrades _ path data attributes).bind_of_ok
    second fun evaluated => writeElement name evaluated (Run.write (.text value.display))
  exact ⟨evaluated, value.display, names, result.trans result', markup.trans markup'⟩

end Text

/-! ## Whole renders -/

/-- Start tags with the same attribute names differ only in the values. -/
theorem skeleton_startTag_congr {name : String} {attributes attributes' : List Xml.Attribute}
    (h : attributes.map Xml.Attribute.name = attributes'.map Xml.Attribute.name) :
    (Xml.Markup.startTag name attributes).skeleton
      = (Xml.Markup.startTag name attributes').skeleton := by
  have split : ∀ list : List Xml.Attribute, list.map (fun a => Xml.Attribute.mk a.name "")
      = (list.map Xml.Attribute.name).map fun name => ⟨name, ""⟩ := by
    intro list
    rw [List.map_map]
    rfl
  rw [Xml.Markup.skeleton, Xml.Markup.skeleton, split, split, h]

theorem comparison_sameShape (table : Variables) (limit : Option Nat) :
    Comparison ⟨.lenient, table, limit⟩ ⟨.lenient, table, limit⟩ Value.SameShape
      Run.SameMarkup where
  nothing := .rfl
  seq := .seq
  write _ := .rfl
  enter _ _ := .rfl
  leaf name path depth expression data data' _ := by
    obtain ⟨text, result, markup⟩ := markup_leaf table limit name path depth data expression
    obtain ⟨text', result', markup'⟩ := markup_leaf table limit name path depth data' expression
    constructor
    · rw [result, result']
    · rw [markup, markup']
      rfl
  attributed name path depth expression attributes data data' _ := by
    obtain ⟨evaluated, text, names, result, markup⟩ :=
      markup_attributed table limit name path depth data expression attributes
    obtain ⟨evaluated', text', names', result', markup'⟩ :=
      markup_attributed table limit name path depth data' expression attributes
    constructor
    · rw [result, result']
    · rw [markup, markup', List.map_cons, List.map_cons,
        skeleton_startTag_congr (names.trans names'.symm)]
      rfl
  sequence name path depth entries data data' shape := by
    rcases shape.lookup?_list name.toList with lists | ⟨none, none'⟩
    · exact .inl lists
    · refine .inr ?_
      rw [renderElement_of_no_list none, renderElement_of_no_list none']
      exact ⟨rfl, rfl⟩

/--
**Markup does not depend on scalar data.**

Let two data have the same shape. In lenient mode, whatever the template, the variables of the caller
and the limit of depth, the two renders both succeed, or both fail with the same error at the same
place. Both write the same tags in the same order, with the same names of attributes, up to the end
or the error, and only the texts and the values of attributes may differ, in neither of which a
bracket or a quote is written.
-/
theorem markup_eq_of_sameShape (template : Template) (runtime : Declarations) (limit : Option Nat)
    {data data' : Value} (shape : data.SameShape data') :
    let run := template.renderWithin .lenient data runtime limit
    let run' := template.renderWithin .lenient data' runtime limit
    run.result = run'.result
      ∧ run.markup.map Xml.Markup.skeleton = run'.markup.map Xml.Markup.skeleton
      ∧ run.written = run.markup.flatMap Xml.Markup.written
      ∧ run'.written = run'.markup.flatMap Xml.Markup.written
      ∧ ∀ piece ∈ run.markup ++ run'.markup, ∀ text ∈ piece.texts,
        ∀ c ∈ ['<', '>', '"', '\''], c ∉ Xml.escape text.toList := by
  intro run run'
  have same : run.SameMarkup run' := by
    simp only [run, run', Template.renderWithin_eq]
    exact .after _ fun table => .after _ fun _ =>
      (comparison_sameShape table limit).body template shape
  exact ⟨same.result, same.markup, run.written_eq_markup, run'.written_eq_markup,
    fun _ _ text _ _ special => Xml.not_mem_escape special text.toList⟩

/-- A template in which the data are text, the value of an attribute and a condition. -/
def rowsTemplate : Template where
  root := "r"
  declarations := []
  globals := .empty
  elements := [
    ("s", .sequence [[
      ("c", .leaf (.string "${y}")),
      ("d", .attributed (.string "=IF(${y}, ${y}, no)") [⟨"k", .string "${y}"⟩])]])]

/-- Data with one item for it. -/
def rowsData (y : String) : Value :=
  .map [("s", .list [.map [("y", .string y)]])]

theorem sameShape_rowsData (y y' : String) : (rowsData y).SameShape (rowsData y') := by
  have single {key : String} {value value' : Value} (shape : value.SameShape value') :
      (Value.map [(key, value)]).SameShape (.map [(key, value')]) := by
    refine .map (fun _ => Iff.rfl) fun other found found' h h' => ?_
    simp only [Entries.get?] at h h'
    split at h
    · rw [if_pos ‹_›] at h'
      cases h
      cases h'
      exact shape
    · cases h
  exact single (.list (.cons (single (.scalar trivial trivial)) .nil))

/-- A text that closes the element and opens another one changes none of the tags. -/
theorem markup_eq_of_sameShape_hostile :
    (rowsData "").SameShape (rowsData "</c><d k=\"") ∧
    (rowsTemplate.renderWithin .lenient (rowsData "") [] none).markup.map Xml.Markup.skeleton
      = (rowsTemplate.renderWithin .lenient (rowsData "</c><d k=\"") [] none).markup.map
        Xml.Markup.skeleton := by
  have shape := sameShape_rowsData "" "</c><d k=\""
  exact ⟨shape, (markup_eq_of_sameShape rowsTemplate [] none shape).2.1⟩

end XmlTemplate
