import XmlTemplate.Proofs.Reach
import XmlTemplate.Proofs.Classification

/-!
# Tags of a document

A document and the same document without its tags, in which the keys of mappings have lost theirs
too, are compiled alike. There is one exception: whether the mapping of an element is a group or an
element with attributes is told from a key `value` without a tag, while all other keys are looked
through. Main statement: tags do not count exactly if every mapping that stands for an element and
has a key that reads `value` has such a key without a tag (`compile_bare_eq_iff_valuePlain`).
-/

namespace XmlTemplate

open Yaml (Node)

/-! ## Without tags -/

namespace Yaml.Node

mutual

/-- The node without any tag, in values and in keys. -/
def bare : Node → Node
  | .tagged _ node => bare node
  | .seq items => .seq (bareItems items)
  | .map entries => .map (bareEntries entries)
  | .null => .null
  | .bool b => .bool b
  | .int n => .int n
  | .float x => .float x
  | .string s => .string s

def bareItems : List Node → List Node
  | [] => []
  | item :: rest => bare item :: bareItems rest

def bareEntries : List (Node × Node) → List (Node × Node)
  | [] => []
  | (key, value) :: rest => (bare key, bare value) :: bareEntries rest

end

theorem bareEntries_eq_map (entries : List (Node × Node)) :
    bareEntries entries = entries.map fun entry => (entry.1.bare, entry.2.bare) := by
  induction entries with
  | nil => rfl
  | cons entry rest ih =>
      obtain ⟨key, value⟩ := entry
      rw [bareEntries, ih, List.map_cons]

/-- No tag is left to look through. -/
theorem untag_bare : ∀ node : Node, node.bare.untag = node.untag.bare
  | .tagged _ node => untag_bare node
  | .null | .bool _ | .int _ | .float _ | .string _ | .seq _ | .map _ => rfl

theorem untag_map (entries : List (Node × Node)) : (Node.map entries).untag = .map entries :=
  rfl

theorem untag_ne_tagged (tag : String) (inner : Node) :
    ∀ node : Node, node.untag ≠ .tagged tag inner
  | .tagged _ node => untag_ne_tagged tag inner node
  | .null | .bool _ | .int _ | .float _ | .string _ | .seq _ | .map _ => by
      rw [untag] <;> simp

theorem text?_bare : ∀ node : Node, node.bare.text? = node.text?
  | .tagged _ node => text?_bare node
  | .null | .bool _ | .int _ | .float _ | .string _ | .seq _ | .map _ => rfl

/-- A key without tags is a text as soon as it reads as one. -/
theorem isText_bare (s : String) : ∀ node : Node, node.bare.isText s = (node.text? == some s)
  | .tagged _ node => isText_bare s node
  | .string _ => rfl
  | .null | .bool _ | .int _ | .float _ | .seq _ | .map _ => rfl

end Yaml.Node

mutual

theorem Value.ofNode_bare : ∀ node : Node, ofNode node.bare = ofNode node
  | .tagged _ node => Value.ofNode_bare node
  | .seq items => congrArg Value.list (Value.ofItems_bare items)
  | .map entries => congrArg Value.ofPairs (Value.ofEntries_bare entries)
  | .null | .bool _ | .int _ | .float _ | .string _ => rfl

theorem Value.ofItems_bare : ∀ items : List Node, ofItems (Node.bareItems items) = ofItems items
  | [] => rfl
  | item :: rest => by
      rw [Node.bareItems, ofItems, ofItems, Value.ofNode_bare item, Value.ofItems_bare rest]

theorem Value.ofEntries_bare : ∀ entries : List (Node × Node),
    ofEntries (Node.bareEntries entries) = ofEntries entries
  | [] => rfl
  | (key, value) :: rest => by
      rw [Node.bareEntries, ofEntries, ofEntries, Value.ofNode_bare key, Value.ofNode_bare value,
        Value.ofEntries_bare rest]

end

/-- Both runs succeed, with the same result. -/
def Run.Coincide {α : Type} (run run' : Run α) : Prop :=
  ∃ a, run.result = .ok a ∧ run'.result = .ok a

theorem Yaml.Node.keyName_bare (key : Node) : key.bare.keyName = key.keyName :=
  congrArg Value.display (Value.ofNode_bare key)

namespace Template

variable {mode : Mode}

theorem section?_bare (key : String) (entries : List (Node × Node)) : section? key
    (Node.bareEntries entries) = (section? key entries).map Node.bare := by
  rw [section?, section?, Node.bareEntries_eq_map, ← List.map_reverse, List.find?_map,
    Option.map_map, Option.map_map]
  simp only [Function.comp_def, Node.text?_bare]

/-- A value under a key reads the same. -/
theorem map_ofNode_section?_bare (key : String) (entries : List (Node × Node)) :
    (section? key (Node.bareEntries entries)).map Value.ofNode =
      (section? key entries).map Value.ofNode := by
  rw [section?_bare, Option.map_map]
  exact congrArg (Option.map · _) (funext Value.ofNode_bare)

theorem map_untag_section?_bare (key : String) (entries : List (Node × Node)) :
    (section? key (Node.bareEntries entries)).map Node.untag =
      ((section? key entries).map Node.untag).map Node.bare := by
  rw [section?_bare, Option.map_map, Option.map_map]
  exact congrArg (Option.map · _) (funext Node.untag_bare)

/-! ## Elements with attributes -/

theorem compileAttribute_bare (path : String) : ∀ node : Node,
    compileAttribute mode path node.bare = compileAttribute mode path node
  | .tagged _ node => compileAttribute_bare path node
  | .map entries => by
      rw [compileAttribute, compileAttribute, Node.bare, Node.untag_map, Node.untag_map]
      dsimp only
      rw [map_ofNode_section?_bare, map_untag_section?_bare]
      cases found : (section? "name" entries).map Node.untag with
      | none => rfl
      | some name =>
          obtain ⟨node, _, rfl⟩ := Option.map_eq_some_iff.mp found
          have named := node.untag.keyName_bare
          cases shape : node.untag with
          | null | bool | int | float | string => rfl
          | tagged tag inner => exact absurd shape (Node.untag_ne_tagged tag inner node)
          | seq | map =>
              rw [shape, Node.bare] at named
              rw [Option.map_some, Option.getD_some, Option.getD_some, Node.bare]
              dsimp only
              rw [named]
  | .null | .bool _ | .int _ | .float _ | .string _ | .seq _ => rfl

theorem compileAttributes_bare (path : String) : ∀ nodes : List Node,
    compileAttributes mode path (Node.bareItems nodes) = compileAttributes mode path nodes
  | [] => rfl
  | node :: rest => by
      rw [Node.bareItems, compileAttributes, compileAttributes, compileAttribute_bare,
        compileAttributes_bare path rest]

theorem compileAttributeSections_bare (path : String) : ∀ entries : List (Node × Node),
    compileAttributeSections mode path (Node.bareEntries entries) =
      compileAttributeSections mode path entries
  | [] => rfl
  | (key, value) :: rest => by
      rw [Node.bareEntries]
      -- a section is told from the text of its key, which tags do not change
      by_cases isSection : key.text? = some "attributes"
      · rw [compileAttributeSections, compileAttributeSections, Node.text?_bare, isSection,
          Node.untag_bare, compileAttributeSections_bare path rest]
        cases shape : value.untag with
        | seq nodes =>
            exact congrArg (· >>= fun attributes => compileAttributeSections mode path rest >>=
              fun more => pure (attributes ++ more)) (compileAttributes_bare path nodes)
        | tagged tag inner => exact absurd shape (Node.untag_ne_tagged tag inner value)
        | null | bool | int | float | string | map => rfl
      · rw [compileAttributeSections_of_ne path isSection, compileAttributeSections_of_ne]
        · exact compileAttributeSections_bare path rest
        · rwa [Node.text?_bare]

theorem compileAttributed_bare (path : String) (entries : List (Node × Node)) :
    compileAttributed mode path (Node.bareEntries entries) =
      compileAttributed mode path entries := by
  rw [compileAttributed, compileAttributed, compileAttributeSections_bare, map_ofNode_section?_bare]

/-! ## Elements -/

/-- Some key of the mapping reads `value`, perhaps below tags. -/
def readsValue (entries : List (Node × Node)) : Bool :=
  entries.any fun entry => entry.1.text? == some "value"

/-- If the node is a mapping with a key that reads `value`, such a key has no tag. -/
def ValuePlain (node : Node) : Prop :=
  ∀ entries, node.untag = .map entries → readsValue entries = true → holdsValue entries = true

theorem holdsValue_bare (entries : List (Node × Node)) :
    holdsValue (Node.bareEntries entries) = readsValue entries := by
  rw [holdsValue, readsValue, Node.bareEntries_eq_map, List.any_map]
  exact congrArg entries.any (funext fun entry => entry.1.isText_bare "value")

theorem readsValue_of_holdsValue {entries : List (Node × Node)} (h : holdsValue entries = true) :
    readsValue entries = true := by
  obtain ⟨⟨key, node⟩, member, isValue⟩ := List.any_eq_true.mp h
  refine List.any_eq_true.mpr ⟨(key, node), member, ?_⟩
  cases key with
  | string s =>
      have same : s = "value" := by simpa [Node.isText] using isValue
      rw [same]
      rfl
  | null | bool | int | float | seq | map | tagged => cases isValue

theorem ValuePlain.holdsValue_eq {entries : List (Node × Node)} (h : ValuePlain (.map entries)) :
    holdsValue (Node.bareEntries entries) = holdsValue entries := by
  rw [holdsValue_bare, Bool.eq_iff_iff]
  exact ⟨h entries rfl, readsValue_of_holdsValue⟩

/-- `ValuePlain` of all elements that compiling the mapping comes to. -/
def ElementsPlain (path : String) (entries : List (Node × Node)) : Prop :=
  ∀ place node, ElementAt path entries place node → ValuePlain node

/-- `ValuePlain` of all elements within an entry of a sequence. -/
def ItemPlain (path : String) (item : Node) : Prop :=
  ∀ inner, item.untag = .map inner → ElementsPlain path inner

/-- `ValuePlain` of an element and of all elements within it. -/
structure ElementPlain (path : String) (node : Node) : Prop where
  value : ValuePlain node
  group : ∀ inner, node.untag = .map inner → holdsValue inner = false → ElementsPlain path inner
  items : ∀ items, node.untag = .seq items → ∀ item ∈ items, ItemPlain path item

theorem ElementsPlain.element {path : String} {entries : List (Node × Node)} {key node : Node}
    (h : ElementsPlain path entries) (member : (key, node) ∈ entries) :
    ElementPlain (Path.child path key.keyName) node where
  value := h _ node (.of_mem member)
  group := fun _ isMap noValue place found reached =>
    h place found (.group member isMap noValue reached)
  items := fun _ isSeq _ among _ isMap place found reached =>
    h place found (.item member isSeq among isMap reached)

theorem ElementsPlain.tail {path : String} {entries : List (Node × Node)} {entry : Node × Node}
    (h : ElementsPlain path (entry :: entries)) : ElementsPlain path entries :=
  fun place found reached => h place found (reached.mono fun _ => List.mem_cons_of_mem _)

mutual

/-- **Elements are compiled alike without tags.** -/
theorem compileContent_bare {path : String} : ∀ {entries : List (Node × Node)},
    ElementsPlain path entries →
    compileContent mode path (Node.bareEntries entries) = compileContent mode path entries
  | [], _ => rfl
  | (key, node) :: rest, plain => by
      rw [Node.bareEntries, compileContent, compileContent, Node.keyName_bare,
        compileContent_bare plain.tail, compileElement_bare (plain.element List.mem_cons_self)]

theorem compileElement_bare {path : String} : ∀ {node : Node}, ElementPlain path node →
    compileElement mode path node.bare = compileElement mode path node
  | .tagged _ node, plain => by
      rw [Node.bare, compileElement]
      exact compileElement_bare ⟨plain.value, plain.group, plain.items⟩
  | .seq items, plain => by
      rw [Node.bare, compileElement, compileElement, compileEntries_bare (plain.items items rfl)]
  | .map entries, plain => by
      have sameShape := plain.value.holdsValue_eq
      rw [Node.bare, compileElement_map, compileElement_map, sameShape]
      cases shape : holdsValue entries with
      | true => exact compileAttributed_bare path entries
      | false =>
          have within : ElementsPlain path entries := plain.group entries rfl shape
          rw [compileContent_bare within]
          rfl
  | .null, _ | .bool _, _ | .int _, _ | .float _, _ | .string _, _ => rfl

theorem compileEntries_bare {path : String} : ∀ {items : List Node},
    (∀ item ∈ items, ItemPlain path item) →
    compileEntries mode path (Node.bareItems items) = compileEntries mode path items
  | [], _ => rfl
  | item :: rest, plain => by
      have first := plain item List.mem_cons_self
      have later : ∀ item ∈ rest, ItemPlain path item :=
        fun item member => plain item (List.mem_cons_of_mem _ member)
      rw [Node.bareItems, compileEntries, compileEntries, compileEntry_bare first,
        compileEntries_bare later]

theorem compileEntry_bare {path : String} : ∀ {item : Node}, ItemPlain path item →
    compileEntry mode path item.bare = compileEntry mode path item
  | .tagged _ node, plain => by
      rw [Node.bare, compileEntry]
      exact compileEntry_bare (show ItemPlain path node from plain)
  | .map entries, plain => by
      rw [Node.bare, compileEntry, compileEntry]
      exact compileContent_bare (plain entries rfl)
  | .null, _ | .bool _, _ | .int _, _ | .float _, _ | .string _, _ => rfl
  | .seq _, _ => rfl

end

/-! ## The sections of a document -/

/-- Wherever the elements of the document lead, a mapping with a key that reads `value` has such a
key without a tag. -/
def ValueKeysPlain (document : Node) : Prop :=
  ∀ entries node elements, document.untag = .map entries →
    (section? "elements" entries = some node) → node.untag = .map elements →
    ElementsPlain "" elements

theorem compileRoot_bare (entries : List (Node × Node)) :
    compileRoot (Node.bareEntries entries) = compileRoot entries := by
  rw [compileRoot, compileRoot, map_untag_section?_bare]
  cases found : (section? "root" entries).map Node.untag with
  | none => rfl
  | some root =>
      obtain ⟨node, _, rfl⟩ := Option.map_eq_some_iff.mp found
      cases shape : node.untag with
      | tagged tag inner => exact absurd shape (Node.untag_ne_tagged tag inner node)
      | null | bool | int | float | string | seq | map => rfl

theorem compileDeclarations_bare (entries : List (Node × Node)) :
    compileDeclarations (Node.bareEntries entries) = compileDeclarations entries := by
  rw [compileDeclarations, compileDeclarations, map_untag_section?_bare]
  cases found : (section? "variables" entries).map Node.untag with
  | none => rfl
  | some declared =>
      obtain ⟨node, _, rfl⟩ := Option.map_eq_some_iff.mp found
      cases shape : node.untag with
      | tagged tag inner => exact absurd shape (Node.untag_ne_tagged tag inner node)
      | map declared =>
          have same : ((Node.bareEntries declared).map fun entry =>
              (entry.1.keyName, Value.ofNode entry.2)) =
              declared.map fun entry => (entry.1.keyName, Value.ofNode entry.2) := by
            simp only [Node.bareEntries_eq_map, List.map_map, Function.comp_def, Node.keyName_bare,
              Value.ofNode_bare]
          exact congrArg (fun declarations : Declarations => (pure declarations : Run _)) same
      | null | bool | int | float | string | seq => rfl

theorem compileElements_bare {entries : List (Node × Node)}
    (plain : ∀ node elements, section? "elements" entries = some node →
      node.untag = .map elements → ElementsPlain "" elements) :
    compileElements mode (Node.bareEntries entries) = compileElements mode entries := by
  rw [compileElements, compileElements, map_untag_section?_bare]
  cases found : section? "elements" entries with
  | none => rfl
  | some node =>
      rw [Option.map_some, Option.map_some]
      cases shape : node.untag with
      | tagged tag inner => exact absurd shape (Node.untag_ne_tagged tag inner node)
      | map elements => exact compileContent_bare (plain node elements found shape)
      | null | bool | int | float | string | seq => rfl

/-- **A document is compiled as without its tags, if a key without a tag tells every element with
attributes.** -/
theorem compile_bare {document : Node} (plain : ValueKeysPlain document) :
    compile mode document.bare = compile mode document := by
  rw [compile, compile, Node.untag_bare]
  cases shape : document.untag with
  | map entries =>
      rw [Node.bare]
      dsimp only
      rw [compileRoot_bare, compileDeclarations_bare,
        compileElements_bare fun node elements => plain entries node elements shape]
  | tagged tag inner => exact absurd shape (Node.untag_ne_tagged tag inner document)
  | null | bool | int | float | string | seq => rfl

/-! ## Documents in which a tag counts

If the document and the one without its tags are compiled to one template, so are all their parts
that compiling comes to.
-/

section Alike

variable {path : String}

theorem coincide_element {key node : Node} {entries : List (Node × Node)}
    (h : Run.Coincide (compileContent mode path (Node.bareEntries entries))
      (compileContent mode path entries)) (member : (key, node) ∈ entries) :
    Run.Coincide (compileElement mode (Path.child path key.keyName) node.bare)
      (compileElement mode (Path.child path key.keyName) node) := by
  induction entries with
  | nil => exact absurd member (by simp)
  | cons entry rest ih =>
      obtain ⟨key', node'⟩ := entry
      obtain ⟨content, given, given'⟩ := h
      rw [Node.bareEntries] at given
      simp only [compileContent, Run.result_bind_eq_ok_iff, Node.keyName_bare, Run.result_pure,
        Except.ok.injEq] at given given'
      obtain ⟨_, _, element, first, more, later, rfl⟩ := given
      obtain ⟨_, _, element', first', more', later', same⟩ := given'
      -- equal lists have equal elements in the same places
      obtain ⟨sameFirst, rfl⟩ := List.cons.inj same
      obtain ⟨_, rfl⟩ := Prod.mk.inj sameFirst
      rcases List.mem_cons.mp member with here | there
      · cases here
        exact ⟨element', first, first'⟩
      · exact ih ⟨more', later, later'⟩ there

theorem coincide_item {item : Node} {items : List Node}
    (h : Run.Coincide (compileEntries mode path (Node.bareItems items))
      (compileEntries mode path items)) (member : item ∈ items) :
    Run.Coincide (compileEntry mode path item.bare) (compileEntry mode path item) := by
  induction items with
  | nil => exact absurd member (by simp)
  | cons head rest ih =>
      obtain ⟨contents, given, given'⟩ := h
      rw [Node.bareItems] at given
      simp only [compileEntries, Run.result_bind_eq_ok_iff, Run.result_pure,
        Except.ok.injEq] at given given'
      obtain ⟨content, first, more, later, rfl⟩ := given
      obtain ⟨content', first', more', later', same⟩ := given'
      obtain ⟨rfl, rfl⟩ := List.cons.inj same
      rcases List.mem_cons.mp member with rfl | there
      · exact ⟨content', first, first'⟩
      · exact ih ⟨more', later, later'⟩ there

variable {node : Node} {inner : List (Node × Node)}

theorem compileAttributed_eq_ok {entries : List (Node × Node)} {element : Element}
    (h : (compileAttributed mode path entries).result = .ok element) :
    ∃ expression attributes, element = .attributed expression attributes := by
  rw [compileAttributed] at h
  obtain ⟨attributes, _, given⟩ := Run.result_bind_eq_ok h
  cases given
  exact ⟨_, _, rfl⟩

/-- Both are groups or both are elements with attributes. -/
theorem valuePlain_of_coincide
    (h : Run.Coincide (compileElement mode path node.bare) (compileElement mode path node)) :
    ValuePlain node := by
  intro entries isMap reads
  obtain ⟨element, given, given'⟩ := h
  rw [← compileElement_untag, Node.untag_bare, isMap, Node.bare, compileElement_map,
    holdsValue_bare, if_pos reads] at given
  rw [← compileElement_untag, isMap, compileElement_map] at given'
  obtain ⟨expression, attributes, rfl⟩ := compileAttributed_eq_ok given
  by_contra noValue
  rw [if_neg noValue] at given'
  obtain ⟨children, _, isGroup⟩ := Run.result_bind_eq_ok given'
  cases isGroup

theorem coincide_group
    (h : Run.Coincide (compileElement mode path node.bare) (compileElement mode path node))
    (isMap : node.untag = .map inner) (noValue : holdsValue inner = false) :
    Run.Coincide (compileContent mode path (Node.bareEntries inner))
      (compileContent mode path inner) := by
  -- without its tags the mapping is a group as well
  have noneReads : readsValue inner = false := by
    by_contra reads
    have holds := valuePlain_of_coincide h inner isMap (by simpa using reads)
    exact absurd (noValue.symm.trans holds) (by decide)
  obtain ⟨element, given, given'⟩ := h
  rw [← compileElement_untag, Node.untag_bare, isMap, Node.bare, compileElement_map,
    holdsValue_bare, noneReads] at given
  rw [← compileElement_untag, isMap, compileElement_map, noValue] at given'
  obtain ⟨children, first, isGroup⟩ := Run.result_bind_eq_ok given
  obtain ⟨children', first', isGroup'⟩ := Run.result_bind_eq_ok given'
  cases isGroup
  cases isGroup'
  exact ⟨children, first, first'⟩

theorem coincide_sequence {items : List Node}
    (h : Run.Coincide (compileElement mode path node.bare) (compileElement mode path node))
    (isSeq : node.untag = .seq items) :
    Run.Coincide (compileEntries mode path (Node.bareItems items))
      (compileEntries mode path items) := by
  obtain ⟨element, given, given'⟩ := h
  rw [← compileElement_untag, Node.untag_bare, isSeq, Node.bare, compileElement] at given
  rw [← compileElement_untag, isSeq, compileElement] at given'
  obtain ⟨entries, first, isSequence⟩ := Run.result_bind_eq_ok given
  obtain ⟨entries', first', isSequence'⟩ := Run.result_bind_eq_ok given'
  cases isSequence
  cases isSequence'
  exact ⟨entries, first, first'⟩

theorem coincide_entry {item : Node}
    (h : Run.Coincide (compileEntry mode path item.bare) (compileEntry mode path item))
    (isMap : item.untag = .map inner) :
    Run.Coincide (compileContent mode path (Node.bareEntries inner))
      (compileContent mode path inner) := by
  rwa [← compileEntry_untag, Node.untag_bare, ← compileEntry_untag item, isMap, Node.bare,
    compileEntry, compileEntry] at h

/-- A mapping that compiling comes to is compiled as without its tags, if the first one is. -/
theorem Reaches.coincide {place : String} {entries mapping : List (Node × Node)}
    (reaches : Reaches path entries place mapping)
    (h : Run.Coincide (compileContent mode path (Node.bareEntries entries))
      (compileContent mode path entries)) :
    Run.Coincide (compileContent mode place (Node.bareEntries mapping))
      (compileContent mode place mapping) := by
  induction reaches with
  | here => exact h
  | group member isMap noValue _ ih =>
      exact ih (coincide_group (coincide_element h member) isMap noValue)
  | item member isSeq among isMap _ ih =>
      have sequence := coincide_sequence (coincide_element h member) isSeq
      exact ih (coincide_entry (coincide_item sequence among) isMap)

theorem elementsPlain_of_coincide {entries : List (Node × Node)}
    (h : Run.Coincide (compileContent mode path (Node.bareEntries entries))
      (compileContent mode path entries)) : ElementsPlain path entries := by
  rintro place node ⟨around, mapping, key, reaches, member, rfl⟩
  exact valuePlain_of_coincide (coincide_element (reaches.coincide h) member)

end Alike

theorem coincide_elements {document : Node} {entries : List (Node × Node)}
    (h : Run.Coincide (compile mode document.bare) (compile mode document))
    (isMap : document.untag = .map entries) :
    Run.Coincide (compileElements mode (Node.bareEntries entries))
      (compileElements mode entries) := by
  obtain ⟨template, given, given'⟩ := h
  rw [compile, Node.untag_bare, isMap, Node.bare] at given
  rw [compile, isMap] at given'
  simp only [Run.result_bind_eq_ok_iff, Run.result_pure, Except.ok.injEq] at given given'
  obtain ⟨_, _, _, _, _, _, elements, compiled, _, _, _, _, rfl⟩ := given
  obtain ⟨_, _, _, _, _, _, elements', compiled', _, _, _, _, same⟩ := given'
  cases same
  exact ⟨elements, compiled, compiled'⟩

/-- Of a document that is compiled as without its tags, a key without a tag tells every element with
attributes. -/
theorem valueKeysPlain_of_coincide {document : Node}
    (h : Run.Coincide (compile mode document.bare) (compile mode document)) :
    ValueKeysPlain document := by
  intro entries node elements isMap found shape
  obtain ⟨content, given, given'⟩ := coincide_elements h isMap
  rw [compileElements, map_untag_section?_bare, found, Option.map_some, Option.map_some, shape,
    Node.bare] at given
  rw [compileElements, found, Option.map_some, shape] at given'
  exact elementsPlain_of_coincide ⟨content, given, given'⟩

end Template

/-! ## Which tags count -/

/--
**Tags do not count, but on the keys `value` of elements.**

A document and the same one without its tags are compiled alike in both modes, to the same template
or to the same error, if a key without a tag tells every element with attributes. Of a document that
is compiled to a template the converse holds too. An engine, which applies merge keys first,
compiles them alike if both are without merge keys.
-/
theorem compile_bare_eq_iff_valuePlain (mode : Mode) (document : Node) :
    (Template.ValueKeysPlain document →
      Template.compile mode document.bare = Template.compile mode document) ∧
    (∀ template, (Template.compile mode document).result = .ok template →
      ((Template.compile mode document.bare).result = .ok template ↔
        Template.ValueKeysPlain document)) ∧
    ∀ engine : Engine, document.MergeFree → document.bare.MergeFree →
      Template.ValueKeysPlain document →
      engine.compile (.document document.bare) = engine.compile (.document document) := by
  refine ⟨Template.compile_bare, ?single, ?engine⟩
  case single =>
    intro template compiled
    constructor
    · intro alike
      exact Template.valueKeysPlain_of_coincide ⟨template, alike, compiled⟩
    · intro plain
      rw [Template.compile_bare plain]
      exact compiled
  case engine =>
    intro engine mergeFree mergeFreeBare plain
    rw [engine.compile_of_mergeFree mergeFree, engine.compile_of_mergeFree mergeFreeBare]
    exact Template.compile_bare plain

/-- A document with tags in every place where they do not count. -/
def taggedDocument : Node :=
  let key (s : String) : Node := .tagged "key" (.string s)
  .tagged "document" (.map [
    (key "root", .tagged "name" (.string "r")),
    (key "variables", .tagged "declared" (.map [(key "V", .tagged "value" (.bool false))])),
    (key "elements", .tagged "content" (.map [
      (key "e", .tagged "element" (.map [
        (.string "value", .tagged "expression" (.bool true)),
        (key "attributes", .tagged "list" (.seq [
          .tagged "attribute" (.map [(key "name", .tagged "name" (.string "id"))])]))])),
      (key "f", .tagged "lists" (.seq [
        .tagged "list" (.map [(key "g", .tagged "leaf" .null)])]))]))])

theorem compile_bare_eq_iff_valuePlain_taggedDocument :
    Template.ValueKeysPlain taggedDocument ∧ taggedDocument.MergeFree
      ∧ taggedDocument.bare.MergeFree
      ∧ Template.compile .strict taggedDocument.bare = Template.compile .strict taggedDocument
      ∧ ∀ engine : Engine, engine.compile (.document taggedDocument.bare) =
        engine.compile (.document taggedDocument) := by
  obtain ⟨alike, single, engines⟩ := compile_bare_eq_iff_valuePlain .strict taggedDocument
  have compiled : (Template.compile .strict taggedDocument).result = .ok {
      root := "r"
      declarations := [("V", .bool false)]
      globals := Dictionary.empty.put "V" (.bool false)
      elements := [("e", .attributed (.bool true) [⟨"id", .null⟩]),
        ("f", .sequence [[("g", .leaf .null)]])] } := rfl
  have plain : Template.ValueKeysPlain taggedDocument := (single _ compiled).mp rfl
  have mergeFree : taggedDocument.MergeFree := by
    simp [taggedDocument, Node.MergeFree, Node.EntriesMergeFree, Node.ItemsMergeFree, Node.isText,
      Node.mergeKey]
  have mergeFreeBare : taggedDocument.bare.MergeFree := by
    simp [taggedDocument, Node.bare, Node.bareEntries, Node.bareItems, Node.MergeFree,
      Node.EntriesMergeFree, Node.ItemsMergeFree, Node.isText, Node.mergeKey]
  exact ⟨plain, mergeFree, mergeFreeBare, alike plain,
    fun engine => engines engine mergeFree mergeFreeBare plain⟩

namespace Yaml.Node

mutual

/-- No mapping has two keys that are the same. -/
def KeysApart : Node → Prop
  | .seq items => ItemsKeysApart items
  | .map entries => EntriesKeysApart entries
  | .tagged _ node => KeysApart node
  | .null | .bool _ | .int _ | .float _ | .string _ => True

def ItemsKeysApart : List Node → Prop
  | [] => True
  | item :: rest => KeysApart item ∧ ItemsKeysApart rest

def EntriesKeysApart : List (Node × Node) → Prop
  | [] => True
  | (key, value) :: rest =>
    hasKey key rest = false ∧ KeysApart key ∧ KeysApart value ∧ EntriesKeysApart rest

end

end Yaml.Node

/-- A tag on a key `value` counts, though no two keys become the same without their tags. -/
theorem exists_tag_counts : ∃ document : Node, document.MergeFree ∧ document.bare.KeysApart
    ∧ ∀ mode, (Template.compile mode document.bare).result ≠
      (Template.compile mode document).result := by
  refine ⟨.map [(.string "root", .string "r"), (.string "elements", .map [
    (.string "e", .map [(.tagged "t" (.string "value"), .string "x")])])], ?_, ?_, ?_⟩
  · simp [Node.MergeFree, Node.EntriesMergeFree, Node.isText, Node.mergeKey]
  · simp [Node.bare, Node.bareEntries, Node.KeysApart, Node.EntriesKeysApart, Node.hasKey,
      Node.same]
  · intro mode same
    have elements : (.ok [("e", .attributed (.string "x") [])] : Except Error Content) =
        .ok [("e", .group [("value", .leaf (.string "x"))])] := by
      cases mode <;> exact congrArg (Except.map Template.elements) same
    simp at elements

end XmlTemplate
