import XmlTemplate.Proofs.Writing
import XmlTemplate.Proofs.Failure
import XmlTemplate.Proofs.Related
import XmlTemplate.Engine

/-!
# Classification

What an element is, compiling finds out from the shape of its node. That is enough: every tree of
elements is read back from the document it is written as, with nothing dropped, merged or reordered
at any depth (`compile_source`). The conditions are that the names in one list of elements are
distinct, that text is no list or map, and that no group has a child named `value`, since a mapping
with that key is an element with attributes (`Element.Writable`). At the top level and in the entries
of a sequence the name `value` is a name like any other.
-/

namespace XmlTemplate

open Yaml (Node)

mutual

/-- The node of the element has the shape that the element is found by, at every depth. -/
def Element.Writable : Element → Prop
  | .leaf expression => expression.IsScalar
  | .attributed expression attributes =>
    expression.Ordered ∧ ∀ a ∈ attributes, a.expression.Ordered
  | .group children => "value" ∉ children.map Prod.fst ∧ Content.Writable children
  | .sequence entries => Content.AllWritable entries

/-- The names are distinct, and the elements can be written. -/
def Content.Writable : Content → Prop
  | [] => True
  | (name, element) :: rest =>
    name ∉ rest.map Prod.fst ∧ element.Writable ∧ Content.Writable rest

def Content.AllWritable : List Content → Prop
  | [] => True
  | content :: rest => Content.Writable content ∧ Content.AllWritable rest

end

mutual

/-- All names within the element are XML names. -/
def Element.Named : Element → Prop
  | .leaf _ => True
  | .attributed _ attributes => ∀ a ∈ attributes, Xml.isName a.name.toList
  | .group children => Content.Named children
  | .sequence entries => Content.AllNamed entries

/-- All names of elements and within them are XML names. -/
def Content.Named : Content → Prop
  | [] => True
  | (name, element) :: rest => Xml.isName name.toList ∧ element.Named ∧ Content.Named rest

def Content.AllNamed : List Content → Prop
  | [] => True
  | content :: rest => Content.Named content ∧ Content.AllNamed rest

end

/-! ## Names -/

theorem Content.map_fst_toEntries (content : Content) :
    content.toEntries.map Prod.fst = content.map Prod.fst := by
  induction content with
  | nil => rfl
  | cons entry rest ih =>
      obtain ⟨name, element⟩ := entry
      rw [toEntries, List.map_cons, List.map_cons, ih]

theorem Content.Writable.nodup : ∀ {content : Content}, content.Writable →
    (content.map Prod.fst).Nodup
  | [], _ => List.nodup_nil
  | (_, _) :: _, ⟨fresh, _, rest⟩ => List.nodup_cons.mpr ⟨fresh, rest.nodup⟩

/-- The mapping of elements that can be written holds all of them, in their order. -/
theorem Content.Writable.mapping {content : Content} (h : content.Writable) :
    Node.mapping content.toEntries = .map (Node.textKeys content.toEntries) :=
  Node.mapping_of_nodup (content.map_fst_toEntries ▸ h.nodup)

/-- A mapping with text keys has the key under which it has an entry. -/
theorem any_isText_textKeys (s : String) (entries : List (String × Node)) :
    ((Node.textKeys entries).any fun entry => entry.1.isText s) = true
      ↔ s ∈ entries.map Prod.fst := by
  simp [Node.textKeys, Node.isText]

namespace Template

variable {mode : Mode}

theorem checkName_of_named {name : String} (h : mode = .strict → Xml.isName name.toList)
    (path : String) : checkName mode name path = pure () := by
  rw [checkName, if_neg]
  rintro ⟨strict, invalid⟩
  rw [h strict] at invalid
  exact absurd invalid (by decide)

/-! ## Elements are read back -/

theorem compileAttribute_toNode (path : String) {a : Attribute} (ordered : a.expression.Ordered)
    (named : mode = .strict → Xml.isName a.name.toList) :
    compileAttribute mode path a.toNode = pure (some a) := by
  have node : a.toNode = .map [(.string "name", .string a.name),
      (.string "value", a.expression.toNode)] := rfl
  have expression : ((section? "value" [(.string "name", .string a.name),
      (.string "value", a.expression.toNode)]).map Value.ofNode).getD .null = a.expression :=
    Value.ofNode_toNode ordered
  rw [node, compileAttribute]
  show (checkName mode a.name path >>= fun _ => _) = _
  rw [checkName_of_named named, pure_bind]
  dsimp only
  rw [expression]
  rfl

theorem compileAttributes_toNode (path : String) {attributes : List Attribute}
    (ordered : ∀ a ∈ attributes, a.expression.Ordered)
    (named : mode = .strict → ∀ a ∈ attributes, Xml.isName a.name.toList) :
    compileAttributes mode path (attributes.map Attribute.toNode) = pure attributes := by
  induction attributes with
  | nil => rfl
  | cons a rest ih =>
      rw [List.map_cons, compileAttributes,
        compileAttribute_toNode path (ordered a List.mem_cons_self)
          (fun strict => named strict a List.mem_cons_self),
        pure_bind, ih (fun b member => ordered b (List.mem_cons_of_mem _ member))
          (fun strict b member => named strict b (List.mem_cons_of_mem _ member)), pure_bind]
      rfl

/-- An entry under another key adds no attributes. -/
theorem compileAttributeSections_of_ne (path : String) {key : Node}
    (h : key.text? ≠ some "attributes") (value : Node) (rest : List (Node × Node)) :
    compileAttributeSections mode path ((key, value) :: rest)
      = compileAttributeSections mode path rest := by
  rw [compileAttributeSections]
  split
  · rename_i found _
    exact absurd found h
  · rw [pure_bind]
    exact bind_pure _

theorem compileAttributeSections_attributes (path : String) (nodes : List Node) :
    compileAttributeSections mode path [(.string "attributes", .seq nodes)]
      = compileAttributes mode path nodes := by
  show (compileAttributes mode path nodes >>= fun attributes =>
    pure [] >>= fun more => pure (attributes ++ more)) = _
  simp only [pure_bind, List.append_nil, bind_pure]

theorem compileElement_attributed (path : String) {expression : Value}
    {attributes : List Attribute} (ordered : expression.Ordered)
    (h : compileAttributes mode path (attributes.map Attribute.toNode) = pure attributes) :
    compileElement mode path (Element.attributed expression attributes).toNode
      = pure (.attributed expression attributes) := by
  have node : (Element.attributed expression attributes).toNode
      = .map [(.string "value", expression.toNode),
        (.string "attributes", .seq (attributes.map Attribute.toNode))] := by
    rw [Element.toNode]
    rfl
  have shape : ([(.string "value", expression.toNode),
      (.string "attributes", .seq (attributes.map Attribute.toNode))].any
        fun entry : Node × Node => entry.1.isText "value") = true := rfl
  have found : ((section? "value" [(.string "value", expression.toNode),
      (.string "attributes", .seq (attributes.map Attribute.toNode))]).map Value.ofNode).getD .null
        = expression :=
    Value.ofNode_toNode ordered
  -- of the two entries, the first gives no attributes and the second all of them
  rw [node, compileElement, if_pos shape, compileAttributed,
    compileAttributeSections_of_ne path (by decide), compileAttributeSections_attributes, h,
    pure_bind, found]

mutual

/-- An element is read back from its node. -/
theorem compileElement_toNode (path : String) : ∀ {element : Element}, element.Writable →
    (mode = .strict → element.Named) → compileElement mode path element.toNode = pure element
  | .leaf expression, scalar, _ => by
      rw [Element.toNode]
      cases expression with
      | list items => exact scalar.elim
      | map entries => exact scalar.elim
      | int n =>
          rw [Value.toNode, compileElement, Value.ofNode, Value.ofInteger_toInt]
      | null | bool _ | float _ | string _ => rw [Value.toNode, compileElement] <;> rfl
  | .attributed expression attributes, ⟨first, all⟩, named =>
      compileElement_attributed path first (compileAttributes_toNode path all named)
  | .group children, ⟨noValue, writable⟩, named => by
      -- no child is named `value`, so the mapping is taken for a group
      have shape : ¬((Node.textKeys (Content.toEntries children)).any
          fun entry => entry.1.isText "value") = true := by
        rw [any_isText_textKeys, Content.map_fst_toEntries]
        exact noValue
      rw [Element.toNode, writable.mapping, compileElement, if_neg shape,
        compileContent_toEntries path writable named, pure_bind]
  | .sequence entries, writable, named => by
      rw [Element.toNode, compileElement, compileEntries_toItems path writable named, pure_bind]

theorem compileContent_toEntries (path : String) : ∀ {content : Content}, content.Writable →
    (mode = .strict → content.Named) →
    compileContent mode path (Node.textKeys content.toEntries) = pure content
  | [], _, _ => by
      rw [Content.toEntries]
      rfl
  | (name, element) :: rest, ⟨_, first, writable⟩, named => by
      rw [Content.toEntries, Node.textKeys_cons, compileContent]
      dsimp only [Node.keyName_string]
      rw [checkName_of_named (fun strict => (named strict).1), pure_bind,
        compileElement_toNode _ first (fun strict => (named strict).2.1), pure_bind,
        compileContent_toEntries path writable (fun strict => (named strict).2.2), pure_bind]

theorem compileEntries_toItems (path : String) : ∀ {entries : List Content},
    Content.AllWritable entries → (mode = .strict → Content.AllNamed entries) →
    compileEntries mode path (Content.toItems entries) = pure entries
  | [], _, _ => by
      rw [Content.toItems]
      rfl
  | content :: rest, ⟨first, writable⟩, named => by
      rw [Content.toItems, first.mapping, compileEntries, compileEntry,
        compileContent_toEntries path first (fun strict => (named strict).1), pure_bind,
        compileEntries_toItems path writable (fun strict => (named strict).2), pure_bind]

end

/-! ## Documents are read back -/

section Documents

variable {root : String} {declarations : Declarations} {elements : Content}

theorem compileDeclarations_sections (root : String) (elements : Content)
    (distinct : (declarations.map Prod.fst).Nodup) (ordered : ∀ d ∈ declarations, d.2.Ordered) :
    compileDeclarations (Node.textKeys (sections root declarations elements))
      = pure declarations := by
  have names : ((declarations.map fun d => (d.1, d.2.toNode)).map Prod.fst).Nodup := by
    rwa [List.map_map]
  rw [sections, Node.mapping_of_nodup names]
  show (pure _ : Run Declarations) = _
  congr 1
  rw [Node.textKeys, List.map_map, List.map_map]
  refine (List.map_congr_left fun d member => ?_).trans (List.map_id declarations)
  exact Prod.ext rfl (Value.ofNode_toNode (ordered d member))

theorem compileElements_sections {mode : Mode} (root : String) (declarations : Declarations)
    (writable : elements.Writable) (named : mode = .strict → elements.Named) :
    compileElements mode (Node.textKeys (sections root declarations elements))
      = pure elements := by
  rw [sections, writable.mapping]
  exact compileContent_toEntries "" writable named

/-- Compiling what was written evaluates the variables, and nothing else in it can fail. -/
theorem compile_source_eq {mode : Mode} (distinct : (declarations.map Prod.fst).Nodup)
    (ordered : ∀ d ∈ declarations, d.2.Ordered) (writable : elements.Writable)
    (named : mode = .strict → Xml.isName root.toList ∧ elements.Named) :
    compile mode (source root declarations elements) = (do
      let globals ← Variables.extend mode .empty declarations
      Run.emit (.compiled root elements.length declarations.length)
      pure { root, declarations, globals, elements }) := by
  have node : source root declarations elements
      = .map (Node.textKeys (sections root declarations elements)) := rfl
  have rootFound : compileRoot (Node.textKeys (sections root declarations elements)) = pure root :=
    rfl
  rw [node, compile]
  dsimp only [Node.untag]
  rw [rootFound, pure_bind, checkName_of_named fun strict => (named strict).1, pure_bind,
    compileDeclarations_sections root elements distinct ordered, pure_bind,
    compileElements_sections root declarations writable fun strict => (named strict).2, pure_bind]

end Documents

end Template

/-! ## Merge keys -/

namespace Yaml.Node

mutual

/-- No mapping has a merge key. -/
def MergeFree : Node → Prop
  | .seq items => ItemsMergeFree items
  | .map entries => EntriesMergeFree entries
  | .tagged _ node => MergeFree node
  | _ => True

def ItemsMergeFree : List Node → Prop
  | [] => True
  | item :: rest => MergeFree item ∧ ItemsMergeFree rest

def EntriesMergeFree : List (Node × Node) → Prop
  | [] => True
  | (key, value) :: rest =>
    key.isText mergeKey = false ∧ MergeFree value ∧ EntriesMergeFree rest

end

theorem takeMerge?_of_mergeFree : ∀ {entries : List (Node × Node)}, EntriesMergeFree entries →
    takeMerge? entries = none
  | [], _ => rfl
  | (key, value) :: rest, ⟨noMerge, _, all⟩ => by
      rw [takeMerge?, noMerge, takeMerge?_of_mergeFree all]
      rfl

mutual

/-- Without merge keys nothing is merged, on any number of levels. -/
theorem mergeWithin_of_mergeFree : ∀ (levels : Nat) {node : Node}, node.MergeFree →
    mergeWithin levels node = some node
  | 0, node, _ => by cases node <;> rw [mergeWithin] <;> simp
  | levels + 1, .seq items, h => by
      rw [mergeWithin, mapM_mergeWithin levels h]
      rfl
  | levels + 1, .map entries, h => by
      rw [mergeWithin, applyMerge?, takeMerge?_of_mergeFree h]
      show ((entries.mapM fun entry => (mergeWithin levels entry.2).map (entry.1, ·)).map Node.map)
        = _
      rw [mapM_entries_mergeWithin levels h]
      rfl
  | levels + 1, .tagged tag node, h => by
      rw [mergeWithin, mergeWithin_of_mergeFree levels (show node.MergeFree from h)]
      rfl
  | _ + 1, .null, _ | _ + 1, .bool _, _ | _ + 1, .int _, _ | _ + 1, .float _, _
  | _ + 1, .string _, _ => by rw [mergeWithin] <;> simp

theorem mapM_mergeWithin (levels : Nat) : ∀ {items : List Node}, ItemsMergeFree items →
    items.mapM (mergeWithin levels) = some items
  | [], _ => rfl
  | item :: rest, ⟨first, all⟩ => by
      rw [List.mapM_cons, mergeWithin_of_mergeFree levels first, mapM_mergeWithin levels all]
      rfl

theorem mapM_entries_mergeWithin (levels : Nat) : ∀ {entries : List (Node × Node)},
    EntriesMergeFree entries →
    (entries.mapM fun entry => (mergeWithin levels entry.2).map (entry.1, ·)) = some entries
  | [], _ => rfl
  | (key, value) :: rest, ⟨_, first, all⟩ => by
      rw [List.mapM_cons, mergeWithin_of_mergeFree levels first,
        mapM_entries_mergeWithin levels all]
      rfl

end

end Yaml.Node

/-- An engine compiles a document without merge keys as it is. -/
theorem Engine.compile_of_mergeFree (engine : Engine) {node : Node} (h : node.MergeFree) :
    engine.compile (.document node) = Template.compile engine.mode node := by
  rw [compile, Source.read?, Node.merged?, Node.mergeWithin_of_mergeFree _ h]

/-! ## Compiling inverts writing -/

/--
**A template is read back from the document it is written as.**

Given distinct names of variables and a tree that can be written, lenient mode always gives the
template with this root, these variables and this tree, and strict mode does if all names are XML
names and the variables can be evaluated. An engine applies merge keys before it compiles; where
there are none, it compiles just this document.
-/
theorem compile_source {declarations : Declarations} {elements : Content}
    (distinct : (declarations.map Prod.fst).Nodup) (ordered : ∀ d ∈ declarations, d.2.Ordered)
    (writable : elements.Writable) (root : String) :
    (∃ globals, (Variables.extend .lenient .empty declarations).result = .ok globals ∧
      (Template.compile .lenient (Template.source root declarations elements)).result
        = .ok { root, declarations, globals, elements }) ∧
    (Xml.isName root.toList → elements.Named →
      ∀ globals, (Variables.extend .strict .empty declarations).result = .ok globals →
      (Template.compile .strict (Template.source root declarations elements)).result
        = .ok { root, declarations, globals, elements }) ∧
    ((Template.source root declarations elements).MergeFree → ∀ engine : Engine,
      engine.compile (.document (Template.source root declarations elements))
        = Template.compile engine.mode (Template.source root declarations elements)) := by
  have compiled {mode : Mode} {globals : Variables}
      (named : mode = .strict → Xml.isName root.toList ∧ elements.Named)
      (evaluated : (Variables.extend mode .empty declarations).result = .ok globals) :
      (Template.compile mode (Template.source root declarations elements)).result
        = .ok { root, declarations, globals, elements } := by
    rw [Template.compile_source_eq distinct ordered writable named, Run.bind_of_ok evaluated]
    rfl
  refine ⟨?lenient, ?strict, ?engine⟩
  case lenient =>
    obtain ⟨globals, evaluated⟩ := Variables.exists_extend_lenient .empty declarations
    exact ⟨globals, evaluated, compiled (by simp) evaluated⟩
  case strict =>
    intro rootNamed named globals evaluated
    exact compiled (fun _ => ⟨rootNamed, named⟩) evaluated
  case engine =>
    intro mergeFree engine
    exact engine.compile_of_mergeFree mergeFree

/-- Elements of every shape. The name `value` stands where it is a name like any other. -/
def manyShapes : Content := [
  ("value", .leaf (.string "=SUM(1, 2)")),
  ("empty", .leaf .null),
  ("count", .leaf (.int (-5))),
  ("both", .attributed (.map [("a", .list [.null, .map []]), ("b", .float 0.5)])
    [⟨"id", .list [.int 1]⟩, ⟨"id", .map []⟩]),
  ("bare", .attributed .null []),
  ("outer", .group [
    ("inner", .group []),
    ("items", .sequence [[("value", .leaf (.bool true)), ("item", .leaf .null)], []])])]

/-- Two variables, of which the second refers to the first. -/
def chained : Declarations := [("A", .list [.int 1]), ("B", .string "$${A}!")]

theorem compile_source_manyShapes :
    manyShapes.Writable ∧ manyShapes.Named ∧
      ∀ mode, (Template.compile mode (Template.source "r" chained manyShapes)).result
        = .ok ⟨"r", chained, (Dictionary.empty.put "A" (.list [.int 1])).put "B" (.string "1!"),
            manyShapes⟩ := by
  have ascending : Entries.Ascending [("a", Value.list [.null, .map []]), ("b", .float 0.5)] :=
    List.pairwise_pair.mpr (by decide)
  have writable : manyShapes.Writable := by
    simp only [manyShapes, Content.Writable, Content.AllWritable, Element.Writable, Value.IsScalar,
      Value.Ordered, Value.AllOrdered, Value.EntriesOrdered, ascending, List.forall_mem_cons]
    simp [Entries.Ascending]
  have named : manyShapes.Named := by
    simp only [manyShapes, Content.Named, Content.AllNamed, Element.Named, List.forall_mem_cons]
    decide +kernel
  have ordered : ∀ d ∈ chained, d.2.Ordered := by
    simp [chained, Value.Ordered, Value.AllOrdered]
  have evaluated (mode : Mode) : (Variables.extend mode .empty chained).result
      = .ok ((Dictionary.empty.put "A" (.list [.int 1])).put "B" (.string "1!")) := by
    cases mode <;> with_unfolding_all rfl
  obtain ⟨⟨globals, lenient, compiled⟩, strict, _⟩ :=
    compile_source (by decide) ordered writable "r"
  refine ⟨writable, named, fun mode => ?_⟩
  cases mode with
  | lenient =>
      rw [compiled, ← Except.ok.inj (lenient.symm.trans (evaluated .lenient))]
  | strict => exact strict (by decide +kernel) named _ (evaluated .strict)

end XmlTemplate
