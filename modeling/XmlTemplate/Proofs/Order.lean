import XmlTemplate.Proofs.Merging
import XmlTemplate.Proofs.Reach

/-!
# The order of a template

The elements and the variables of a template are the entries of the mappings that they are compiled
from, in the same order (`Template.follows_compile`). An engine applies the merge keys of a document
first. So for a tidy document the lists of the template have the own entries of each mapping, and
then those that it merges (`compile_eq_compile_expanded`).
-/

namespace XmlTemplate

open Yaml (Node)

/-! ## Lists of a template in the order of a document -/

mutual

/-- The elements are the entries of the mapping, in its order and with the names of their keys; so
are the elements within them. -/
def Content.Follows : Content → List (Node × Node) → Prop
  | [], [] => True
  | (name, element) :: content, (key, node) :: entries =>
    name = key.keyName ∧ Element.Follows element node.untag ∧ Content.Follows content entries
  | _, _ => False

/-- The element has the lists of elements that the node without its tags has. -/
def Element.Follows : Element → Node → Prop
  | .group children, .map entries => Content.Follows children entries
  | .sequence contents, .seq items => Content.EachFollows contents items
  | .attributed _ _, .map entries => Template.holdsValue entries = true
  | .leaf _, node => (∀ entries, node ≠ .map entries) ∧ ∀ items, node ≠ .seq items
  | _, _ => False

/-- The lists of elements are the mappings of the sequence, in its order. -/
def Content.EachFollows : List Content → List Node → Prop
  | [], [] => True
  | content :: contents, item :: items =>
    (∃ entries, item.untag = .map entries ∧ Content.Follows content entries)
      ∧ Content.EachFollows contents items
  | _, _ => False

end

/-- The elements and the variables are the entries of their sections, in the order of these. -/
structure Template.Follows (template : Template) (document : Node) : Prop where
  variables_eq : ∀ entries node declared, document.untag = .map entries →
    Template.section? "variables" entries = some node → node.untag = .map declared →
    template.declarations = declared.map fun entry => (entry.1.keyName, Value.ofNode entry.2)
  elements : ∀ entries node elements, document.untag = .map entries →
    Template.section? "elements" entries = some node → node.untag = .map elements →
    Content.Follows template.elements elements

namespace Template

variable {mode : Mode} {path : String}

mutual

/-- **Elements are compiled in the order of the mapping.** -/
theorem follows_compileContent {path : String} : ∀ (entries : List (Node × Node))
    {content : Content}, (compileContent mode path entries).result = .ok content →
    Content.Follows content entries
  | [] => by
      intro h
      cases h
      trivial
  | (key, node) :: rest => by
      intro h
      rw [compileContent] at h
      obtain ⟨_, _, h⟩ := Run.result_bind_eq_ok h
      obtain ⟨element, first, h⟩ := Run.result_bind_eq_ok h
      obtain ⟨more, later, h⟩ := Run.result_bind_eq_ok h
      cases h
      exact ⟨rfl, follows_compileElement node first, follows_compileContent rest later⟩
termination_by structural entries => entries

theorem follows_compileElement {path : String} : ∀ (node : Node) {element : Element},
    (compileElement mode path node).result = .ok element → Element.Follows element node.untag
  | .tagged _ node => by
      intro h
      rw [compileElement] at h
      exact follows_compileElement node h
  | .seq items => by
      intro h
      rw [compileElement] at h
      obtain ⟨contents, compiled, h⟩ := Run.result_bind_eq_ok h
      cases h
      exact eachFollows_compileEntries items compiled
  | .map entries => by
      intro h
      rw [compileElement_map] at h
      split at h
      case isTrue isValue =>
          rw [compileAttributed] at h
          obtain ⟨attributes, _, h⟩ := Run.result_bind_eq_ok h
          cases h
          exact isValue
      case isFalse =>
          obtain ⟨children, compiled, h⟩ := Run.result_bind_eq_ok h
          cases h
          exact follows_compileContent entries compiled
  | .null | .bool _ | .int _ | .float _ | .string _ => by
      intro h
      cases h
      rw [Node.untag] <;> simp [Element.Follows]
termination_by structural node => node

theorem eachFollows_compileEntries {path : String} : ∀ (items : List Node)
    {contents : List Content}, (compileEntries mode path items).result = .ok contents →
    Content.EachFollows contents items
  | [] => by
      intro h
      cases h
      trivial
  | item :: rest => by
      intro h
      rw [compileEntries] at h
      obtain ⟨content, first, h⟩ := Run.result_bind_eq_ok h
      obtain ⟨more, later, h⟩ := Run.result_bind_eq_ok h
      cases h
      exact ⟨follows_compileEntry item first, eachFollows_compileEntries rest later⟩
termination_by structural items => items

theorem follows_compileEntry {path : String} : ∀ (item : Node) {content : Content},
    (compileEntry mode path item).result = .ok content →
    ∃ entries, item.untag = .map entries ∧ Content.Follows content entries
  | .tagged _ item => by
      intro h
      rw [compileEntry] at h
      exact follows_compileEntry item h
  | .map entries => by
      intro h
      rw [compileEntry] at h
      exact ⟨entries, rfl, follows_compileContent entries h⟩
  | .null | .bool _ | .int _ | .float _ | .string _ | .seq _ => by
      intro h
      cases h
termination_by structural item => item

end

theorem follows_compile {document : Node} {template : Template}
    (h : (compile mode document).result = .ok template) : template.Follows document := by
  rw [compile] at h
  split at h
  case h_2 => cases h
  case h_1 entries isMap =>
    obtain ⟨root, _, h⟩ := Run.result_bind_eq_ok h
    obtain ⟨_, _, h⟩ := Run.result_bind_eq_ok h
    obtain ⟨declarations, declared, h⟩ := Run.result_bind_eq_ok h
    obtain ⟨elements, compiled, h⟩ := Run.result_bind_eq_ok h
    obtain ⟨globals, _, h⟩ := Run.result_bind_eq_ok h
    cases h
    constructor
    · intro entries' node mapping isMap' found shape
      cases isMap.symm.trans isMap'
      rw [compileDeclarations, found, Option.map_some, shape] at declared
      exact (Except.ok.inj declared).symm
    · intro entries' node mapping isMap' found shape
      cases isMap.symm.trans isMap'
      rw [compileElements, found, Option.map_some, shape] at compiled
      exact follows_compileContent _ compiled

end Template

/-! ## Merge keys and the order of a template -/

/--
**The merge keys of a tidy document are applied in order.**

A tidy document whose merge keys can be merged is merged into what it stands for: each mapping has
its own entries in order and then those that it lacks of what it merges, merged before. An engine
compiles that, so the lists of the template have these entries in this order, and no merge key is
left.
-/
theorem compile_eq_compile_expanded {node : Node} (valid : node.EveryMapping Node.ValidMerge)
    (tidy : node.EveryMapping Node.TidyMerge) :
    node.merged? = some node.expanded ∧ node.expanded.MergeFree ∧ ∀ engine : Engine,
      engine.compile (.document node) = Template.compile engine.mode node.expanded ∧
      ∀ template, (engine.compile (.document node)).result = .ok template →
        template.Follows node.expanded := by
  have merged := Node.merged?_eq_expanded valid tidy
  have compiled (engine : Engine) :
      engine.compile (.document node) = Template.compile engine.mode node.expanded := by
    rw [Engine.compile, Source.read?, merged]
  refine ⟨merged, Node.mergeFree_expanded node, fun engine => ⟨compiled engine, ?_⟩⟩
  intro template h
  rw [compiled engine] at h
  exact Template.follows_compile h

/-- An element that merges two mappings, one of which has an element that merges another one. -/
def mergingDocument : Node :=
  .map [(.string "root", .string "r"), (.string "elements", .map [(.string "b", .map [
    (.string "y", .string "1"),
    (.string "<<", .seq [
      .map [(.string "x", .string "2"), (.string "y", .string "3")],
      .map [(.string "x", .string "4"), (.string "c", .map [
        (.string "<<", .map [(.string "k", .string "5")]), (.string "j", .string "6")])]]),
    (.string "z", .string "7")])])]

theorem compile_eq_compile_expanded_mergingDocument :
    mergingDocument.EveryMapping Node.ValidMerge ∧ mergingDocument.EveryMapping Node.TidyMerge ∧
      (Engine.compile {} (.document mergingDocument)).result.map Template.elements =
        .ok [("b", .group [("y", .leaf (.string "1")), ("z", .leaf (.string "7")),
          ("x", .leaf (.string "2")),
          ("c", .group [("j", .leaf (.string "6")), ("k", .leaf (.string "5"))])])] := by
  have valid : mergingDocument.EveryMapping Node.ValidMerge := by
    simp [mergingDocument, Node.EveryMapping, Node.EveryMappingIn, Node.EveryMappingAmong,
      Node.ValidMerge, Node.NoMerge, Node.isText, Node.mergeKey, Node.mergeEntries?,
      Node.mergeEntries?.mapping?]
  have tidy : mergingDocument.EveryMapping Node.TidyMerge := by
    simp [mergingDocument, Node.EveryMapping, Node.EveryMappingIn, Node.EveryMappingAmong,
      Node.TidyMerge, Node.NoMerge, Node.isText, Node.mergeKey, Node.mergeEntries?,
      Node.mergeEntries?.mapping?, or_imp, forall_and]
  obtain ⟨_, _, engines⟩ := compile_eq_compile_expanded valid tidy
  refine ⟨valid, tidy, ?_⟩
  rw [(engines {}).1]
  rfl

/-- Two entries behind the merge key change places, and the merge key of a merged mapping is left
over. -/
theorem exists_merge_untidy :
    (∃ node template, node.EveryMapping Node.ValidMerge
      ∧ (Engine.compile {} (.document node)).result = .ok template
      ∧ template.elements = [("b", .group [("z", .leaf (.string "2")), ("y", .leaf (.string "1")),
        ("x", .leaf (.string "0"))])]
      ∧ ¬ template.Follows node.expanded) ∧
    ∃ node template, node.EveryMapping Node.ValidMerge
      ∧ (Engine.compile {} (.document node)).result = .ok template
      ∧ template.elements = [("b", .group [("z", .leaf (.string "2")),
        ("<<", .group [("x", .leaf (.string "0"))]), ("y", .leaf (.string "1"))])]
      ∧ ¬ template.Follows node.expanded := by
  constructor
  · refine ⟨.map [(.string "root", .string "r"), (.string "elements", .map [(.string "b", .map [
      (.string "<<", .map [(.string "x", .string "0")]), (.string "y", .string "1"),
      (.string "z", .string "2")])])], _, ?_, rfl, rfl, ?_⟩
    · simp [Node.EveryMapping, Node.EveryMappingIn, Node.ValidMerge, Node.NoMerge, Node.isText,
        Node.mergeKey, Node.mergeEntries?]
    · intro follows
      obtain ⟨_, ⟨name, _⟩, _⟩ := follows.elements _ _ _ rfl rfl rfl
      exact absurd name (by decide)
  · refine ⟨.map [(.string "root", .string "r"), (.string "elements", .map [(.string "b", .map [
      (.string "<<", .map [(.string "<<", .map [(.string "x", .string "0")]),
        (.string "y", .string "1")]), (.string "z", .string "2")])])], _, ?_, rfl, rfl, ?_⟩
    · simp [Node.EveryMapping, Node.EveryMappingIn, Node.ValidMerge, Node.NoMerge, Node.isText,
        Node.mergeKey, Node.mergeEntries?]
    · intro follows
      obtain ⟨_, ⟨_, _, name, _⟩, _⟩ := follows.elements _ _ _ rfl rfl rfl
      exact absurd name (by decide)

end XmlTemplate
