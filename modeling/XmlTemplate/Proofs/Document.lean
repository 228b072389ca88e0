import Mathlib.Control.Monad.Basic
import XmlTemplate.Stream
import XmlTemplate.Proofs.Reader
import XmlTemplate.Proofs.Table

/-!
# The document that a template depicts

What a render should write is a document: the root element, and in it, element by element, the
texts of the evaluated expressions. `Template.document` says which document that is, without a word
on tags, escaping or the order of writing. The main statement, `read?_render`, is that the output of
every render that succeeds is read back as this document, and as nothing else.
-/

namespace XmlTemplate

/-! ## The expected document -/

section Depiction

variable (mode : Mode) (table : Variables)

/-- The text that an expression puts into the document, if it has a value. -/
def shown (data expression : Value) : Option String :=
  (expression.evaluate mode table data).result.toOption.map Value.display

/-- The attributes with their texts, in the order declared. -/
def depictAttributes (data : Value) : List Attribute → Option (List Xml.Attribute)
  | [] => some []
  | ⟨name, expression⟩ :: rest => do
    let text ← shown mode table data expression
    let attributes ← depictAttributes data rest
    some (⟨name, text⟩ :: attributes)

mutual

/-- The nodes of the elements of one level, in order. -/
def depictContent (data : Value) : List (String × Element) → Option (List Xml.Tree)
  | [] => some []
  | (name, element) :: rest => do
    let nodes ← depictElement name data element
    let more ← depictContent data rest
    some (nodes ++ more)

/-- The node of an element: none for a sequence for which the data have no list. -/
def depictElement (name : String) (data : Value) : Element → Option (List Xml.Tree)
  | .leaf expression => do
    let text ← shown mode table data expression
    some [.element name [] (Xml.Tree.chars text)]
  | .attributed expression attributes => do
    let text ← shown mode table data expression
    let attributes ← depictAttributes mode table data attributes
    some [.element name attributes (Xml.Tree.chars text)]
  | .group children => do
    let inside ← depictContent data children
    some [.element name [] inside]
  | .sequence entries =>
    match data.lookup? name.toList with
    | some (.list items) => do
      let inside ← items.mapM fun item => depictEntries item entries
      some [.element name [] inside.flatten]
    | _ => some []

/-- The nodes of all the entries of a sequence for one item. -/
def depictEntries (item : Value) : List (List (String × Element)) → Option (List Xml.Tree)
  | [] => some []
  | content :: rest => do
    let nodes ← depictContent item content
    let more ← depictEntries item rest
    some (nodes ++ more)

end

/-- The document of a template, for the variables and the data. -/
def Template.document (template : Template) (data : Value) : Option Xml.Tree := do
  let inside ← depictContent mode table data template.elements
  some (.element template.root [] inside)

end Depiction

/-! ## The names in a template -/

section Names

variable (p : String → Prop)

mutual

/-- All names of elements and attributes in the content have the property. -/
def Content.EveryName : List (String × Element) → Prop
  | [] => True
  | (name, element) :: rest => p name ∧ Element.EveryName element ∧ Content.EveryName rest

/-- All names inside the element have the property. -/
def Element.EveryName : Element → Prop
  | .leaf _ => True
  | .attributed _ attributes => ∀ a ∈ attributes, p a.name
  | .group children => Content.EveryName children
  | .sequence entries => Content.EveryNames entries

/-- All names in the entries of a sequence have the property. -/
def Content.EveryNames : List (List (String × Element)) → Prop
  | [] => True
  | content :: rest => Content.EveryName content ∧ Content.EveryNames rest

end

/-- The names of the root, of all elements and of all attributes have the property. -/
def Template.EveryName (template : Template) : Prop :=
  p template.root ∧ Content.EveryName p template.elements

end Names

/-! ## Output that is read as trees -/

/-- Around text that is read as trees, the tags of an element make it the content of one. -/
theorem reads_writeElement {name : String} {attributes : List Xml.Attribute} {inside : Run Unit}
    (plain : Xml.IsPlain name) (plainKeys : ∀ a ∈ attributes, Xml.IsPlain a.name)
    (success : (writeElement name attributes inside).result = .ok ()) :
    inside.result = .ok () ∧ ∀ trees, Xml.Reads inside.written trees →
      Xml.Reads (writeElement name attributes inside).written
        [.element name attributes trees] := by
  obtain ⟨_, _, success, wroteStart⟩ := Run.bind_eq_ok success
  obtain ⟨_, result, _, wroteRest⟩ := Run.bind_eq_ok success
  refine ⟨result, fun trees reads => ?_⟩
  have tags : (writeElement name attributes inside).written
      = (Xml.Markup.startTag name attributes).written
        ++ (inside.written ++ (Xml.Markup.endTag name).written) := by
    rw [writeElement, wroteStart, wroteRest, Run.written_write, Run.written_write]
  rw [tags]
  exact reads.element plain plainKeys

theorem reads_write_text (s : String) :
    Xml.Reads (Run.write (.text s)).written (Xml.Tree.chars s) := by
  rw [Run.written_write]
  exact Xml.reads_text s

/-- Where the output for each item is read as its trees, the whole output is read as all of them. -/
theorem reads_forEachItem {action : Value → Run Unit} {nodes? : Value → Option (List Xml.Tree)}
    (each : ∀ item, (action item).result = .ok () →
      ∃ nodes, nodes? item = some nodes ∧ Xml.Reads (action item).written nodes) :
    ∀ {items : List Value}, (forEachItem action items).result = .ok () →
      ∃ nodes, items.mapM nodes? = some nodes
        ∧ Xml.Reads (forEachItem action items).written nodes.flatten
  | [], _ => ⟨[], rfl, Xml.Reads.nil⟩
  | item :: rest, success => by
      obtain ⟨_, first, more, wrote⟩ := Run.bind_eq_ok success
      obtain ⟨nodes, depicted, reads⟩ := each item first
      obtain ⟨nodes', depicted', reads'⟩ := reads_forEachItem each more
      refine ⟨nodes :: nodes', ?_, ?_⟩
      · rw [List.mapM_cons, depicted, depicted']
        rfl
      · rw [forEachItem, wrote]
        exact reads.append reads'

section Rendered

variable {scope : Scope}

theorem silent_evaluate (path : String) (data expression : Value) :
    (scope.evaluate path data expression).Silent :=
  (scope.evaluate_onlyDegrades path data expression).silent

theorem silent_enter (path : String) (depth : Nat) : (scope.enter path depth).Silent := by
  rcases scope.enter_cases path depth with ⟨_, _, _, tooDeep⟩ | entered
  · rw [tooDeep]
    rfl
  · rw [entered]
    rfl

theorem silent_attributes (path : String) (data : Value) (attributes : List Attribute) :
    (scope.attributes path data attributes).Silent :=
  (scope.attributes_onlyDegrades path data attributes).silent

theorem shown_of_evaluate {path : String} {data expression value : Value}
    (h : (scope.evaluate path data expression).result = .ok value) :
    shown scope.mode scope.table data expression = some value.display := by
  have evaluated := Run.result_locate_eq_ok.mp h
  rw [shown, evaluated]
  rfl

/-- The attributes of a start tag are those declared, with the texts of their expressions. -/
theorem depictAttributes_of_attributes {path : String} {data : Value}
    {attributes : List Attribute} {written : List Xml.Attribute}
    (h : (scope.attributes path data attributes).result = .ok written)
    {p : String → Prop} (named : ∀ a ∈ attributes, p a.name) :
    depictAttributes scope.mode scope.table data attributes = some written
      ∧ ∀ a ∈ written, p a.name := by
  induction attributes generalizing written with
  | nil =>
      cases h
      exact ⟨rfl, by simp⟩
  | cons first rest ih =>
      obtain ⟨value, evaluated, h⟩ := Run.result_bind_eq_ok h
      obtain ⟨more, evaluatedRest, h⟩ := Run.result_bind_eq_ok h
      cases h
      obtain ⟨depicted, namedRest⟩ :=
        ih evaluatedRest fun a member => named a (List.mem_cons_of_mem _ member)
      refine ⟨?_, List.forall_mem_cons.mpr ⟨named first List.mem_cons_self, namedRest⟩⟩
      rw [depictAttributes, shown_of_evaluate evaluated, depicted]
      rfl

mutual

/-- What a level of elements writes is read as the nodes that it depicts. -/
theorem reads_renderElements {path : String} {depth : Nat} {data : Value} :
    ∀ {content : List (String × Element)}, Content.EveryName Xml.IsPlain content →
      (renderElements scope path depth data content).result = .ok () →
      ∃ nodes, depictContent scope.mode scope.table data content = some nodes
        ∧ Xml.Reads (renderElements scope path depth data content).written nodes
  | [], _, _ => ⟨[], rfl, Xml.Reads.nil⟩
  | (name, element) :: rest, ⟨plain, plainInside, plainRest⟩, success => by
      rw [renderElements] at success ⊢
      obtain ⟨_, first, more, wrote⟩ := Run.bind_eq_ok success
      obtain ⟨nodes, depicted, reads⟩ := reads_renderElement plain plainInside first
      obtain ⟨nodes', depicted', reads'⟩ := reads_renderElements plainRest more
      refine ⟨nodes ++ nodes', ?_, ?_⟩
      · rw [depictContent, depicted, depicted']
        rfl
      · rw [wrote]
        exact reads.append reads'

theorem reads_renderElement {name path : String} {depth : Nat} {data : Value}
    (plain : Xml.IsPlain name) :
    ∀ {element : Element}, Element.EveryName Xml.IsPlain element →
      (renderElement scope name path depth data element).result = .ok () →
      ∃ nodes, depictElement scope.mode scope.table name data element = some nodes
        ∧ Xml.Reads (renderElement scope name path depth data element).written nodes
  | .leaf expression, _, success => by
      rw [renderElement] at success ⊢
      obtain ⟨value, evaluated, success, wrote⟩ :=
        (silent_evaluate path data expression).bind_eq_ok success
      obtain ⟨_, reads⟩ := reads_writeElement plain (by simp) success
      refine ⟨_, by rw [depictElement, shown_of_evaluate evaluated]; rfl, ?_⟩
      rw [wrote]
      exact reads _ (reads_write_text value.display)
  | .attributed expression attributes, plainKeys, success => by
      rw [renderElement] at success ⊢
      obtain ⟨value, evaluated, success, wrote⟩ :=
        (silent_evaluate path data expression).bind_eq_ok success
      obtain ⟨written, evaluatedAll, success, wroteRest⟩ :=
        (silent_attributes path data attributes).bind_eq_ok success
      obtain ⟨depicted, plainWritten⟩ := depictAttributes_of_attributes evaluatedAll plainKeys
      obtain ⟨_, reads⟩ := reads_writeElement plain plainWritten success
      refine ⟨_, by rw [depictElement, shown_of_evaluate evaluated, depicted]; rfl, ?_⟩
      rw [wrote, wroteRest]
      exact reads _ (reads_write_text value.display)
  | .group children, plainInside, success => by
      rw [renderElement] at success ⊢
      obtain ⟨inside, reads⟩ := reads_writeElement plain (by simp) success
      obtain ⟨_, _, rendered, wrote⟩ := (silent_enter path (depth + 1)).bind_eq_ok inside
      obtain ⟨nodes, depicted, readsInside⟩ := reads_renderElements plainInside rendered
      refine ⟨_, by rw [depictElement, depicted]; rfl, reads _ ?_⟩
      rw [wrote]
      exact readsInside
  | .sequence entries, plainInside, success => by
      have nothing (kind : Option Kind) : ∃ nodes, some [] = some nodes ∧ Xml.Reads
          ((Run.degrade scope.mode (.sequenceWithoutList path kind)).locate path).written
          nodes := by
        refine ⟨[], rfl, ?_⟩
        rw [((Run.unplaced_degrade scope.mode _).locate path).silent]
        exact Xml.Reads.nil
      rw [renderElement] at success ⊢
      rw [depictElement]
      cases found : data.lookup? name.toList with
      | none => exact nothing _
      | some value =>
          rw [found] at success
          cases value with
          | list items =>
              obtain ⟨inside, reads⟩ := reads_writeElement plain (by simp) success
              obtain ⟨nodes, depicted, readsInside⟩ := reads_forEachItem
                (fun item rendered => reads_renderEntries plainInside rendered) inside
              dsimp only
              rw [depicted]
              exact ⟨_, rfl, reads _ readsInside⟩
          | null | bool | int | float | string | map => exact nothing _

theorem reads_renderEntries {path : String} {depth : Nat} {item : Value} :
    ∀ {entries : List (List (String × Element))}, Content.EveryNames Xml.IsPlain entries →
      (renderEntries scope path depth item entries).result = .ok () →
      ∃ nodes, depictEntries scope.mode scope.table item entries = some nodes
        ∧ Xml.Reads (renderEntries scope path depth item entries).written nodes
  | [], _, _ => ⟨[], rfl, Xml.Reads.nil⟩
  | content :: rest, ⟨plain, plainRest⟩, success => by
      rw [renderEntries] at success ⊢
      obtain ⟨_, _, success, wrote⟩ := (silent_enter path depth).bind_eq_ok success
      obtain ⟨_, first, more, wroteRest⟩ := Run.bind_eq_ok success
      obtain ⟨nodes, depicted, reads⟩ := reads_renderElements plain first
      obtain ⟨nodes', depicted', reads'⟩ := reads_renderEntries plainRest more
      refine ⟨nodes ++ nodes', ?_, ?_⟩
      · rw [depictEntries, depicted, depicted']
        rfl
      · rw [wrote, wroteRest]
        exact reads.append reads'

end

end Rendered

/-! ## The whole render -/

/-- What a render that succeeds writes is read as the document of the template. -/
theorem reads_render {template : Template} {mode : Mode} {request : Request}
    (plain : template.EveryName Xml.IsPlain)
    (success : (template.render mode request).result = .ok ()) :
    ∃ data table tree, request.data = .ok data
      ∧ (template.table mode request.declarations).result = .ok table
      ∧ template.document mode table data = some tree
      ∧ Xml.Reads (template.render mode request).written [tree] := by
  obtain ⟨plainRoot, plainElements⟩ := plain
  rw [Template.render] at success ⊢
  -- nothing is written before the tag of the root
  obtain ⟨data, converted, success, wroteData⟩ :=
    (Run.silent_of_no_events rfl).bind_eq_ok success
  obtain ⟨table, built, success, wroteTable⟩ := Variables.silent_extend.bind_eq_ok success
  obtain ⟨_, _, success, wroteNote⟩ :=
    (show (Run.emit (.rendering template.root table.size)).Silent from rfl).bind_eq_ok success
  obtain ⟨inside, reads⟩ := reads_writeElement plainRoot (by simp) success
  obtain ⟨_, _, rendered, wroteEnter⟩ := (silent_enter "" 0).bind_eq_ok inside
  obtain ⟨nodes, depicted, readsInside⟩ := reads_renderElements plainElements rendered
  refine ⟨data, table, .element template.root [] nodes, Request.data_of_converted converted, built,
    ?_, ?_⟩
  · rw [Template.document, depicted]
    rfl
  · rw [wroteData, wroteTable, wroteNote]
    refine reads nodes ?_
    rw [wroteEnter]
    exact readsInside

/--
**The output of a render is readable back.**

Let the names in the template be plain. If a render succeeds, in either mode and with or without a
limit of depth, then its output is read as one tree, and that is the document that the template
depicts for the data and the variables.
-/
theorem read?_render {template : Template} {mode : Mode} {request : Request} {xml : String}
    (plain : template.EveryName Xml.IsPlain)
    (success : (template.render mode request).text = .ok xml) :
    ∃ data table tree, request.data = .ok data
      ∧ (template.table mode request.declarations).result = .ok table
      ∧ template.document mode table data = some tree
      ∧ Xml.read? xml.toList = some [tree] := by
  rw [Run.text] at success
  cases rendered : (template.render mode request).result with
  | error e =>
      rw [rendered] at success
      cases success
  | ok done =>
      rw [rendered] at success
      cases success
      obtain ⟨data, table, tree, given, built, depicted, reads⟩ := reads_render plain rendered
      refine ⟨data, table, tree, given, built, depicted, ?_⟩
      rw [String.toList_ofList]
      exact reads.read?

/-- A template with an element of every shape. -/
def hostileTemplate : Template where
  root := "r"
  declarations := []
  globals := .empty
  elements := [
    ("a", .attributed (.string "${x}") [⟨"k", .string "$${V}"⟩]),
    ("g", .group [("b", .leaf (.string "=IF(${x}, ${x}, no)"))]),
    ("s", .sequence [[("c", .leaf (.string "${y}"))], [("d", .leaf .null)]])]

/-- Data that look like markup. -/
def hostileData : Value :=
  .map [("s", .list [.map [("y", .string "&lt;")]]), ("x", .string "</a><b k=\"")]

/-- A variable that looks like markup, too. -/
def hostileRequest : Request where
  data := .ok hostileData
  declarations := [("V", .string "\" x='&quot;")]

/-- The table that the variable makes. -/
def hostileTable : Variables :=
  Dictionary.empty.put "V" (.string "\" x='&quot;")

/-- Every special character is written as an entity, also that of an entity in the data. -/
def hostileOutput : String :=
  "<r><a k=\"&quot; x=&apos;&amp;quot;\">&lt;/a&gt;&lt;b k=&quot;</a>"
    ++ "<g><b>&lt;/a&gt;&lt;b k=&quot;</b></g><s><c>&amp;lt;</c><d></d></s></r>"

/-- What comes from the data and from the variable is neither a tag nor an attribute. -/
def hostileTree : Xml.Tree :=
  .element "r" [] [
    .element "a" [⟨"k", "\" x='&quot;"⟩] (Xml.Tree.chars "</a><b k=\""),
    .element "g" [] [.element "b" [] (Xml.Tree.chars "</a><b k=\"")],
    .element "s" [] [.element "c" [] (Xml.Tree.chars "&lt;"), .element "d" [] []]]

/-- What looks like markup is read back as the text that it is. -/
theorem read?_render_hostile :
    hostileTemplate.EveryName Xml.IsPlain
      ∧ (hostileTemplate.render .strict hostileRequest).text = .ok hostileOutput
      ∧ hostileRequest.data = .ok hostileData
      ∧ (hostileTemplate.table .strict hostileRequest.declarations).result = .ok hostileTable
      ∧ hostileTemplate.document .strict hostileTable hostileData = some hostileTree
      ∧ Xml.read? hostileOutput.toList = some [hostileTree] := by
  have plain : hostileTemplate.EveryName Xml.IsPlain := by
    simp only [hostileTemplate, Template.EveryName, Content.EveryName, Element.EveryName,
      Content.EveryNames]
    decide
  have success : (hostileTemplate.render .strict hostileRequest).text = .ok hostileOutput := by
    decide +kernel
  have built : (hostileTemplate.table .strict hostileRequest.declarations).result
      = .ok hostileTable := by
    with_unfolding_all rfl
  have document : hostileTemplate.document .strict hostileTable hostileData
      = some hostileTree := by
    decide +kernel
  obtain ⟨data, table, tree, given, built', depicted, read⟩ := read?_render plain success
  cases given
  cases built.symm.trans built'
  cases document.symm.trans depicted
  exact ⟨plain, success, rfl, built, document, read⟩

end XmlTemplate
