import XmlTemplate.Proofs.Document
import XmlTemplate.Proofs.Demand
import XmlTemplate.Proofs.Immunity
import XmlTemplate.Proofs.Shown
import XmlTemplate.Proofs.Accepted

/-!
# Well-formed output

Strict mode checks every name on its own and nothing else about the markup. That is enough for tags
that match and for ampersands that start entities. It is not enough for two other rules of XML: an
element of the template may have two attributes of one name, and a text may hold a character that no
document may hold. Both come out as they went in, and nothing else can break the rules
(`strict_render_wellFormed`).

What the document of a template has in common with the template, element by element, is followed
once (`everyOf_depictContent`); attributes and characters are two cases of that.
-/

namespace XmlTemplate

open Xml (LegalText)

/-! ## What holds of all elements -/

section Every

variable (p : Value → List Attribute → Prop)

mutual

/-- All elements with text in the content have the property, with their expressions and
attributes. -/
def Content.EveryText : List (String × Element) → Prop
  | [] => True
  | (_, element) :: rest => Element.EveryText element ∧ Content.EveryText rest

/-- All elements with text inside the element have the property. -/
def Element.EveryText : Element → Prop
  | .leaf expression => p expression []
  | .attributed expression attributes => p expression attributes
  | .group children => Content.EveryText children
  | .sequence entries => Content.EveryTexts entries

/-- All elements with text in the entries of a sequence have the property. -/
def Content.EveryTexts : List (List (String × Element)) → Prop
  | [] => True
  | content :: rest => Content.EveryText content ∧ Content.EveryTexts rest

end

end Every

/-- How a property of elements with text makes one of the tags and the characters in their place, in
all data of some kind. -/
structure Marks (mode : Mode) (table : Variables) (fits : Value → Prop) (name : String → Prop)
    (element : Value → List Attribute → Prop) (tag : String → List Xml.Attribute → Prop)
    (text : Char → Prop) : Prop where
  items : ∀ {data : Value} {key : List Char} {items : List Value}, fits data →
    data.lookup? key = some (.list items) → ∀ item ∈ items, fits item
  bare : ∀ {n : String}, name n → tag n []
  full : ∀ {n : String} {expression data : Value} {attributes : List Attribute} {shownText : String}
    {written : List Xml.Attribute}, name n → (∀ a ∈ attributes, name a.name) →
    element expression attributes → fits data → shown mode table data expression = some shownText →
    depictAttributes mode table data attributes = some written →
    tag n written ∧ ∀ c ∈ shownText.toList, text c

section Depicted

variable {mode : Mode} {table : Variables} {fits : Value → Prop} {name : String → Prop}
  {element : Value → List Attribute → Prop} {tag : String → List Xml.Attribute → Prop}
  {text : Char → Prop}

theorem everyOf_element {n : String} {attributes : List Xml.Attribute} {inside : List Xml.Tree}
    (h : tag n attributes) (within : Xml.Tree.EveryOf tag text inside) :
    Xml.Tree.EveryOf tag text [.element n attributes inside] :=
  ⟨⟨h, within⟩, trivial⟩

/-- For each item of a list the same is done. -/
theorem everyOf_flatten {nodes? : Value → Option (List Xml.Tree)} {items : List Value}
    {inside : List (List Xml.Tree)} (h : items.mapM nodes? = some inside)
    (each : ∀ item ∈ items, ∀ nodes, nodes? item = some nodes → Xml.Tree.EveryOf tag text nodes) :
    Xml.Tree.EveryOf tag text inside.flatten := by
  induction items generalizing inside with
  | nil =>
      cases h
      trivial
  | cons item rest ih =>
      obtain ⟨first, later⟩ := List.forall_mem_cons.mp each
      rw [List.mapM_cons] at h
      obtain ⟨nodes, depicted, h⟩ := Option.bind_eq_some_iff.mp h
      obtain ⟨more, depictedRest, h⟩ := Option.bind_eq_some_iff.mp h
      cases h
      rw [List.flatten_cons]
      exact Xml.Tree.everyOf_append.mpr ⟨first nodes depicted, ih depictedRest later⟩

mutual

/-- **What all elements of the content have, all tags and characters of its document have.** -/
theorem everyOf_depictContent (marks : Marks mode table fits name element tag text) {data : Value}
    (h : fits data) : ∀ {content : List (String × Element)} {nodes : List Xml.Tree},
      Content.EveryName name content → Content.EveryText element content →
      depictContent mode table data content = some nodes → Xml.Tree.EveryOf tag text nodes
  | [], nodes, _, _, depicted => by
      cases depicted
      trivial
  | (n, inner) :: rest, nodes, ⟨named, namedWithin, namedRest⟩, ⟨within, later⟩, depicted => by
      rw [depictContent] at depicted
      obtain ⟨first, depictedFirst, depicted⟩ := Option.bind_eq_some_iff.mp depicted
      obtain ⟨more, depictedRest, depicted⟩ := Option.bind_eq_some_iff.mp depicted
      cases depicted
      exact Xml.Tree.everyOf_append.mpr
        ⟨everyOf_depictElement marks h named namedWithin within depictedFirst,
          everyOf_depictContent marks h namedRest later depictedRest⟩

theorem everyOf_depictElement (marks : Marks mode table fits name element tag text) {data : Value}
    (h : fits data) {n : String} (named : name n) : ∀ {inner : Element} {nodes : List Xml.Tree},
      Element.EveryName name inner → Element.EveryText element inner →
      depictElement mode table n data inner = some nodes → Xml.Tree.EveryOf tag text nodes
  | .leaf expression, nodes, _, marked, depicted => by
      -- written like an element with no attributes
      rw [depictElement] at depicted
      obtain ⟨shownText, found, depicted⟩ := Option.bind_eq_some_iff.mp depicted
      cases depicted
      obtain ⟨tagged, chars⟩ := marks.full named (by simp) marked h found rfl
      exact everyOf_element tagged (Xml.Tree.everyOf_chars.mpr chars)
  | .attributed expression attributes, nodes, keys, marked, depicted => by
      rw [depictElement] at depicted
      obtain ⟨shownText, found, depicted⟩ := Option.bind_eq_some_iff.mp depicted
      obtain ⟨written, attributes, depicted⟩ := Option.bind_eq_some_iff.mp depicted
      cases depicted
      obtain ⟨tagged, chars⟩ := marks.full named keys marked h found attributes
      exact everyOf_element tagged (Xml.Tree.everyOf_chars.mpr chars)
  | .group children, nodes, namedWithin, within, depicted => by
      rw [depictElement] at depicted
      obtain ⟨inside, depictedInside, depicted⟩ := Option.bind_eq_some_iff.mp depicted
      cases depicted
      exact everyOf_element (marks.bare named)
        (everyOf_depictContent marks h namedWithin within depictedInside)
  | .sequence entries, nodes, namedWithin, within, depicted => by
      rw [depictElement] at depicted
      split at depicted
      · rename_i items found
        obtain ⟨inside, depictedItems, depicted⟩ := Option.bind_eq_some_iff.mp depicted
        cases depicted
        refine everyOf_element (marks.bare named) (everyOf_flatten depictedItems ?_)
        intro item member nodes depictedItem
        exact everyOf_depictEntries marks (marks.items h found item member) namedWithin within
          depictedItem
      · cases depicted
        trivial

theorem everyOf_depictEntries (marks : Marks mode table fits name element tag text) {item : Value}
    (h : fits item) : ∀ {entries : List (List (String × Element))} {nodes : List Xml.Tree},
      Content.EveryNames name entries → Content.EveryTexts element entries →
      depictEntries mode table item entries = some nodes → Xml.Tree.EveryOf tag text nodes
  | [], nodes, _, _, depicted => by
      cases depicted
      trivial
  | content :: rest, nodes, ⟨named, namedRest⟩, ⟨within, later⟩, depicted => by
      rw [depictEntries] at depicted
      obtain ⟨first, depictedFirst, depicted⟩ := Option.bind_eq_some_iff.mp depicted
      obtain ⟨more, depictedRest, depicted⟩ := Option.bind_eq_some_iff.mp depicted
      cases depicted
      exact Xml.Tree.everyOf_append.mpr ⟨everyOf_depictContent marks h named within depictedFirst,
        everyOf_depictEntries marks h namedRest later depictedRest⟩

end

theorem Template.every_document (marks : Marks mode table fits name element tag text)
    {template : Template} {data : Value} {tree : Xml.Tree} (h : fits data)
    (named : template.EveryName name) (marked : Content.EveryText element template.elements)
    (depicted : template.document mode table data = some tree) : tree.Every tag text := by
  rw [Template.document] at depicted
  obtain ⟨inside, depictedInside, depicted⟩ := Option.bind_eq_some_iff.mp depicted
  cases depicted
  exact ⟨marks.bare named.1, everyOf_depictContent marks h named.2 marked depictedInside⟩

end Depicted

/-! ## Attributes -/

/-- No start tag in the tree has two attributes of one name. -/
def Xml.Tree.DistinctAttributes (tree : Xml.Tree) : Prop :=
  tree.Every (fun _ attributes => (attributes.map Xml.Attribute.name).Nodup) fun _ => True

/-- No element of the template has two attributes of one name. -/
def Template.DistinctAttributes (template : Template) : Prop :=
  Content.EveryText (fun _ attributes => (attributes.map Attribute.name).Nodup) template.elements

theorem names_depictAttributes {mode : Mode} {table : Variables} {data : Value}
    {attributes : List Attribute} {written : List Xml.Attribute}
    (h : depictAttributes mode table data attributes = some written) :
    written.map Xml.Attribute.name = attributes.map Attribute.name := by
  induction attributes generalizing written with
  | nil =>
      cases h
      rfl
  | cons a rest ih =>
      rw [depictAttributes] at h
      obtain ⟨text, _, h⟩ := Option.bind_eq_some_iff.mp h
      obtain ⟨more, depicted, h⟩ := Option.bind_eq_some_iff.mp h
      cases h
      rw [List.map_cons, List.map_cons, ih depicted]

/-- Attributes are written as they stand in the template. -/
theorem marks_attributes (mode : Mode) (table : Variables) :
    Marks mode table (fun _ => True) Xml.IsName
      (fun _ attributes => (attributes.map Attribute.name).Nodup)
      (fun _ attributes => (attributes.map Xml.Attribute.name).Nodup) fun _ => True where
  items _ _ _ _ := trivial
  bare _ := List.nodup_nil
  full _ _ distinct _ _ depicted := by
    rw [names_depictAttributes depicted]
    exact ⟨distinct, fun _ _ => trivial⟩

/-! ## Characters -/

/-- All texts in the expressions of the template are legal. -/
def Template.Legal (template : Template) : Prop :=
  template.declarations.Legal ∧ Content.EveryText
    (fun expression attributes => expression.Legal ∧ ∀ a ∈ attributes, a.expression.Legal)
    template.elements

/-- All texts in the data and in the expressions of the request are legal. -/
def Request.Legal (request : Request) : Prop :=
  (∀ data, request.data = .ok data → data.Legal) ∧ request.declarations.Legal

theorem legalText_of_shown {mode : Mode} {table : Variables} {data expression : Value}
    {text : String} (legalTable : table.Legal) (legalData : data.Legal)
    (legal : expression.Legal) (h : shown mode table data expression = some text) :
    LegalText text.toList := by
  obtain ⟨value, evaluated, rfl⟩ := Option.map_eq_some_iff.mp h
  have result : (expression.evaluate mode table data).result = .ok value := by
    cases given : (expression.evaluate mode table data).result with
    | error e =>
        rw [given] at evaluated
        cases evaluated
    | ok value' =>
        rw [given] at evaluated
        cases evaluated
        rfl
  exact (legal.evaluate legalTable legalData result).display

theorem legalAttributes_of_depicted {mode : Mode} {table : Variables} {data : Value}
    (legalTable : table.Legal) (legalData : data.Legal) {attributes : List Attribute}
    {written : List Xml.Attribute} (named : ∀ a ∈ attributes, Xml.IsName a.name)
    (legal : ∀ a ∈ attributes, a.expression.Legal)
    (h : depictAttributes mode table data attributes = some written) :
    Xml.LegalAttributes written := by
  induction attributes generalizing written with
  | nil =>
      cases h
      intro a member
      exact absurd member (by simp)
  | cons a rest ih =>
      rw [depictAttributes] at h
      obtain ⟨text, found, h⟩ := Option.bind_eq_some_iff.mp h
      obtain ⟨more, depicted, h⟩ := Option.bind_eq_some_iff.mp h
      cases h
      obtain ⟨name, names⟩ := List.forall_mem_cons.mp named
      obtain ⟨first, later⟩ := List.forall_mem_cons.mp legal
      refine List.forall_mem_cons.mpr ⟨⟨Xml.legalText_of_isName name, ?_⟩, ih names later depicted⟩
      exact legalText_of_shown legalTable legalData first found

/-- Texts are written with the characters that come in. -/
theorem marks_characters (mode : Mode) {table : Variables} (legalTable : table.Legal) :
    Marks mode table Value.Legal Xml.IsName
      (fun expression attributes => expression.Legal ∧ ∀ a ∈ attributes, a.expression.Legal)
      Xml.LegalTag fun c => Xml.isLegal c = true where
  items legal found := Value.allLegal_iff.mp (legal.lookup? found)
  bare named := ⟨Xml.legalText_of_isName named, fun a member => absurd member (by simp)⟩
  full named keys marked legal found depicted := by
    obtain ⟨expression, attributes⟩ := marked
    refine ⟨⟨Xml.legalText_of_isName named, ?_⟩, ?_⟩
    · exact legalAttributes_of_depicted legalTable legal keys attributes depicted
    · exact legalText_of_shown legalTable legal expression found

theorem Template.legal_table {mode compiled : Mode} {document : Yaml.Node} {template : Template}
    (h : (Template.compile compiled document).result = .ok template) (legal : template.Legal)
    {runtime : Declarations} (legalRuntime : runtime.Legal) {table : Variables}
    (built : (template.table mode runtime).result = .ok table) : table.Legal := by
  have globals : Variables.Legal template.globals :=
    Variables.legal_empty.extend legal.1 (Template.globals_of_compile h)
  exact globals.extend (legalRuntime.merge legal.1) built

/-! ## Well-formed output -/

/-- The text is a document by the rules of XML: tags match, no start tag has two attributes of one
name, ampersands start entities, and all characters are legal. -/
structure Xml.WellFormed (s : List Char) : Prop where
  tags : ∃ name attributes children, Xml.read? s = some [.element name attributes children]
    ∧ (Xml.Tree.element name attributes children).DistinctAttributes
  entities : Xml.EntitiesOnly s
  characters : LegalText s

theorem Run.text_eq_ok {run : Run Unit} {xml : String} (h : run.text = .ok xml) :
    run.result = .ok () ∧ xml.toList = run.written := by
  rw [Run.text] at h
  cases result : run.result with
  | error e =>
      rw [result] at h
      cases h
  | ok done =>
      rw [result] at h
      cases h
      exact ⟨rfl, String.toList_ofList⟩

mutual

theorem Content.EveryName.mono {p q : String → Prop} (imp : ∀ name, p name → q name) :
    ∀ {content : List (String × Element)}, Content.EveryName p content →
      Content.EveryName q content
  | [], _ => trivial
  | (name, _) :: _, ⟨named, within, later⟩ =>
    ⟨imp name named, Element.EveryName.mono imp within, Content.EveryName.mono imp later⟩

theorem Element.EveryName.mono {p q : String → Prop} (imp : ∀ name, p name → q name) :
    ∀ {element : Element}, Element.EveryName p element → Element.EveryName q element
  | .leaf _, _ => trivial
  | .attributed _ _, named => fun a member => imp a.name (named a member)
  | .group _, within => Content.EveryName.mono imp within
  | .sequence _, within => Content.EveryNames.mono imp within

theorem Content.EveryNames.mono {p q : String → Prop} (imp : ∀ name, p name → q name) :
    ∀ {entries : List (List (String × Element))}, Content.EveryNames p entries →
      Content.EveryNames q entries
  | [], _ => trivial
  | _ :: _, ⟨within, later⟩ =>
    ⟨Content.EveryName.mono imp within, Content.EveryNames.mono imp later⟩

end

theorem Template.EveryName.mono {p q : String → Prop} (imp : ∀ name, p name → q name)
    {template : Template} (h : template.EveryName p) : template.EveryName q :=
  ⟨imp _ h.1, Content.EveryName.mono imp h.2⟩

/--
**What strict mode lets through is well-formed but for two things.**

Let a template be compiled in strict mode and rendered, in either mode, with success. Then the tags
of the output match around one root element, and every ampersand starts an entity. No start tag has
two attributes of one name if no element of the template has. All characters are legal if they are
in the texts of the template, of the variables and of the data.
-/
theorem strict_render_wellFormed {document : Yaml.Node} {template : Template} {mode : Mode}
    {request : Request} {xml : String}
    (compiled : (Template.compile .strict document).result = .ok template)
    (success : (template.render mode request).text = .ok xml) :
    ∃ children, Xml.read? xml.toList = some [.element template.root [] children]
      ∧ Xml.EntitiesOnly xml.toList
      ∧ (template.DistinctAttributes →
        (Xml.Tree.element template.root [] children).DistinctAttributes)
      ∧ (template.Legal → request.Legal → LegalText xml.toList) := by
  obtain ⟨result, written⟩ := Run.text_eq_ok success
  have named : template.EveryName Xml.IsName := (Template.compile_strict_iff.mp compiled).2.1
  have plain : template.EveryName Xml.IsPlain :=
    named.mono fun _ name => Xml.isPlain_of_isName name
  obtain ⟨data, table, tree, given, built, depicted, reads⟩ := reads_render plain result
  -- all that is said of the output is read off the document that it is read as
  have read : Xml.read? xml.toList = some [tree] := by
    rw [written]
    exact reads.read?
  obtain ⟨children, _, root⟩ := Option.bind_eq_some_iff.mp depicted
  cases root
  refine ⟨children, read, Xml.entitiesOnly_of_read? read, ?distinct, ?legal⟩
  case distinct =>
    intro distinct
    exact Template.every_document (marks_attributes mode table) trivial named distinct depicted
  case legal =>
    intro legal legalRequest
    have legalTable : table.Legal := Template.legal_table compiled legal legalRequest.2 built
    have legalTree := Template.every_document (marks_characters mode legalTable)
      (legalRequest.1 data given) named legal.2 depicted
    exact Xml.legalText_of_read? read ⟨legalTree, trivial⟩

/-- A document with variables, attributes, a group and a sequence. -/
def orderDocument : Yaml.Node :=
  .map [(.string "root", .string "order"),
    (.string "variables", .map [(.string "open", .bool true)]),
    (.string "elements", .map [
      (.string "id", .map [(.string "value", .string "${id}"), (.string "attributes", .seq [
        .map [(.string "name", .string "open"), (.string "value", .string "$${open}")],
        .map [(.string "name", .string "ns:by"), (.string "value", .string "$${By}")]])]),
      (.string "sum", .map [(.string "net", .string "=SUM(${net}, 0)")]),
      (.string "lines", .seq [.map [(.string "line", .string "${text}")]])])]

/-- Its template. -/
def orderedTemplate : Template where
  root := "order"
  declarations := [("open", .bool true)]
  globals := Dictionary.empty.put "open" (.bool true)
  elements := [
    ("id", .attributed (.string "${id}")
      [⟨"open", .string "$${open}"⟩, ⟨"ns:by", .string "$${By}"⟩]),
    ("sum", .group [("net", .leaf (.string "=SUM(${net}, 0)"))]),
    ("lines", .sequence [[("line", .leaf (.string "${text}"))]])]

/-- Data and a variable with the five special characters. -/
def orderedRequest : Request where
  data := .ok (.map [("id", .string "<&>"), ("lines", .list [.map [("text", .string "\t&amp;")]]),
    ("net", .int 7)])
  declarations := [("By", .string "\"'")]

/-- The five characters are written as entities, in the attribute and in the texts. -/
def orderedOutput : String :=
  "<order><id open=\"true\" ns:by=\"&quot;&apos;\">&lt;&amp;&gt;</id><sum><net>7</net></sum>"
    ++ "<lines><line>\t&amp;amp;</line></lines></order>"

/-- The nodes in the root element. -/
def orderedNodes : List Xml.Tree := [
  .element "id" [⟨"open", "true"⟩, ⟨"ns:by", "\"'"⟩] (Xml.Tree.chars "<&>"),
  .element "sum" [] [.element "net" [] (Xml.Tree.chars "7")],
  .element "lines" [] [.element "line" [] (Xml.Tree.chars "\t&amp;")]]

theorem strict_render_wellFormed_ordered :
    (Template.compile .strict orderDocument).result = .ok orderedTemplate
      ∧ (orderedTemplate.render .strict orderedRequest).text = .ok orderedOutput
      ∧ orderedTemplate.DistinctAttributes ∧ orderedTemplate.Legal ∧ orderedRequest.Legal
      ∧ Xml.read? orderedOutput.toList = some [.element "order" [] orderedNodes]
      ∧ Xml.EntitiesOnly orderedOutput.toList
      ∧ (Xml.Tree.element "order" [] orderedNodes).DistinctAttributes
      ∧ LegalText orderedOutput.toList := by
  have compiled : (Template.compile .strict orderDocument).result = .ok orderedTemplate := by
    rfl
  have success : (orderedTemplate.render .strict orderedRequest).text = .ok orderedOutput := by
    decide +kernel
  have nodes : Xml.read? orderedOutput.toList = some [.element "order" [] orderedNodes] := by
    decide +kernel
  have distinct : orderedTemplate.DistinctAttributes := by
    simp [Template.DistinctAttributes, orderedTemplate, Content.EveryText, Element.EveryText,
      Content.EveryTexts]
  have legal : orderedTemplate.Legal := by
    simp only [Template.Legal, Declarations.Legal, orderedTemplate, Content.EveryText,
      Element.EveryText, Content.EveryTexts, List.forall_mem_cons, List.not_mem_nil,
      false_implies, implies_true, Value.Legal]
    decide
  have legalRequest : orderedRequest.Legal := by
    refine ⟨fun data given => ?_, ?_⟩
    · cases given
      simp only [Value.Legal, Value.AllLegal, Value.EntriesLegal]
      decide
    · simp only [Declarations.Legal, orderedRequest, List.forall_mem_cons, List.not_mem_nil,
        false_implies, implies_true, Value.Legal]
      decide
  obtain ⟨children, read, entities, attributes, characters⟩ :=
    strict_render_wellFormed compiled success
  cases nodes.symm.trans read
  exact ⟨compiled, success, distinct, legal, legalRequest, nodes, entities, attributes distinct,
    characters legal legalRequest⟩

/-- Two attributes of one name in the template, or a control character in the data, come out in
strict mode. -/
theorem exists_strict_render_not_wellFormed :
    (∃ document template xml, (Template.compile .strict document).result = .ok template
      ∧ template.Legal ∧ Request.Legal {} ∧ (template.render .strict {}).text = .ok xml
      ∧ ¬ Xml.WellFormed xml.toList) ∧
    ∃ document template request xml, (Template.compile .strict document).result = .ok template
      ∧ template.DistinctAttributes ∧ (template.render .strict request).text = .ok xml
      ∧ ¬ Xml.WellFormed xml.toList := by
  constructor
  · refine ⟨.map [(.string "root", .string "r"), (.string "elements", .map [
      (.string "e", .map [(.string "value", .string "x"), (.string "attributes", .seq [
        .map [(.string "name", .string "a"), (.string "value", .string "1")],
        .map [(.string "name", .string "a"), (.string "value", .string "2")]])])])],
      ⟨"r", [], .empty, [("e", .attributed (.string "x")
        [⟨"a", .string "1"⟩, ⟨"a", .string "2"⟩])]⟩,
      "<r><e a=\"1\" a=\"2\">x</e></r>", rfl, ?legal, ?request, by decide +kernel, ?twice⟩
    case legal =>
      simp only [Template.Legal, Declarations.Legal, Content.EveryText, Element.EveryText,
        List.forall_mem_cons, List.not_mem_nil, false_implies, implies_true, Value.Legal]
      decide
    case request =>
      refine ⟨fun data given => ?_, fun _ member => absurd member (by simp)⟩
      cases given
      trivial
    case twice =>
      rintro ⟨⟨name, attributes, children, read, distinct⟩, _, _⟩
      have tree : some [Xml.Tree.element "r" [] [.element "e" [⟨"a", "1"⟩, ⟨"a", "2"⟩]
          [.char 'x']]] = some [.element name attributes children] := read
      cases tree
      exact absurd distinct.2.1.1 (by decide)
  · refine ⟨.map [(.string "root", .string "r"), (.string "elements", .map [
      (.string "e", .string "${x}")])], ⟨"r", [], .empty, [("e", .leaf (.string "${x}"))]⟩,
      { data := .ok (.map [("x", .string "\x01")]) }, "<r><e>\x01</e></r>", rfl, ?distinct,
      by decide +kernel, ?control⟩
    case distinct => exact ⟨List.nodup_nil, trivial⟩
    case control =>
      rintro ⟨_, _, characters⟩
      exact absurd characters (by decide)

end XmlTemplate
