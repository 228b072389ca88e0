import XmlTemplate.Template.Compile

/-!
# Where compiling comes to

Compiling does not look at every node of a document. From the mapping of the elements it goes on
into groups and into the entries of sequences, and stops at elements with attributes. `Reaches` says
which mappings are compiled as lists of elements in this way, and with what path; `ElementAt` and
`SequenceEntry` say which nodes are taken for elements and for entries of sequences. The same
entries are listed in the order of the document by `entriesWithin` (`mem_entriesWithin_iff`).
-/

namespace XmlTemplate.Template

open Yaml (Node)

/-- Whether a mapping that stands for an element is one with attributes. -/
def holdsValue (entries : List (Node × Node)) : Bool :=
  entries.any fun entry => entry.1.isText "value"

section Shapes

variable {mode : Mode} {path : String}

theorem compileElement_map (path : String) (entries : List (Node × Node)) :
    compileElement mode path (.map entries) = if holdsValue entries
      then compileAttributed mode path entries
      else compileContent mode path entries >>= fun children => pure (.group children) := by
  rw [compileElement, holdsValue]

theorem compileElement_untag : ∀ node : Node,
    compileElement mode path node.untag = compileElement mode path node
  | .tagged _ node => compileElement_untag node
  | .null | .bool _ | .int _ | .float _ | .string _ | .seq _ | .map _ => rfl

theorem compileEntry_untag : ∀ item : Node,
    compileEntry mode path item.untag = compileEntry mode path item
  | .tagged _ item => compileEntry_untag item
  | .null | .bool _ | .int _ | .float _ | .string _ | .seq _ | .map _ => rfl

end Shapes

/-- To compile the first mapping as elements with the first path, the second one is compiled as
elements with the second path. -/
inductive Reaches : String → List (Node × Node) → String → List (Node × Node) → Prop where
  | here {path : String} {entries : List (Node × Node)} : Reaches path entries path entries
  /-- From the mapping of a group. -/
  | group {path place : String} {entries inner mapping : List (Node × Node)} {key node : Node} :
      (key, node) ∈ entries → node.untag = .map inner → holdsValue inner = false →
      Reaches (Path.child path key.keyName) inner place mapping →
      Reaches path entries place mapping
  /-- From an entry of a sequence; it has the path of the sequence. -/
  | item {path place : String} {entries inner mapping : List (Node × Node)} {key node item : Node}
      {items : List Node} :
      (key, node) ∈ entries → node.untag = .seq items → item ∈ items → item.untag = .map inner →
      Reaches (Path.child path key.keyName) inner place mapping →
      Reaches path entries place mapping

/-- To compile the mapping as elements with the path, the node is compiled as the element at the
place. -/
def ElementAt (path : String) (entries : List (Node × Node)) (place : String) (node : Node) :
    Prop :=
  ∃ around mapping key, Reaches path entries around mapping ∧ (key, node) ∈ mapping
    ∧ place = Path.child around key.keyName

/-- To compile the mapping as elements with the path, the item is taken for an entry of the sequence
that is the element at the place. -/
def SequenceEntry (path : String) (entries : List (Node × Node)) (place : String) (item : Node) :
    Prop :=
  ∃ around mapping key node items, Reaches path entries around mapping ∧ (key, node) ∈ mapping
    ∧ node.untag = .seq items ∧ item ∈ items ∧ place = Path.child around key.keyName

namespace ElementAt

variable {path place : String} {entries inner : List (Node × Node)} {key node found : Node}

theorem of_mem (member : (key, node) ∈ entries) :
    ElementAt path entries (Path.child path key.keyName) node :=
  ⟨path, entries, key, .here, member, rfl⟩

theorem mono {more : List (Node × Node)} (within : ∀ element ∈ entries, element ∈ more)
    (h : ElementAt path entries place found) : ElementAt path more place found := by
  obtain ⟨around, mapping, key, reaches, member, rfl⟩ := h
  cases reaches with
  | here => exact .of_mem (within _ member)
  | group first isMap noValue reaches =>
      exact ⟨around, mapping, key, .group (within _ first) isMap noValue reaches, member, rfl⟩
  | item first isSeq among isMap reaches =>
      exact ⟨around, mapping, key, .item (within _ first) isSeq among isMap reaches, member, rfl⟩

theorem group (first : (key, node) ∈ entries) (isMap : node.untag = .map inner)
    (noValue : holdsValue inner = false)
    (h : ElementAt (Path.child path key.keyName) inner place found) :
    ElementAt path entries place found := by
  obtain ⟨around, mapping, key', reaches, rest⟩ := h
  exact ⟨around, mapping, key', .group first isMap noValue reaches, rest⟩

theorem item {item : Node} {items : List Node} (first : (key, node) ∈ entries)
    (isSeq : node.untag = .seq items) (among : item ∈ items) (isMap : item.untag = .map inner)
    (h : ElementAt (Path.child path key.keyName) inner place found) :
    ElementAt path entries place found := by
  obtain ⟨around, mapping, key', reaches, rest⟩ := h
  exact ⟨around, mapping, key', .item first isSeq among isMap reaches, rest⟩

end ElementAt

/-! ## The same in the order of the document -/

mutual

/-- The entries of all sequences that a mapping of elements leads to, each with the path of its
sequence. -/
def entriesWithin (path : String) : List (Node × Node) → List (String × Node)
  | [] => []
  | (key, node) :: rest =>
    entriesOfElement (Path.child path key.keyName) node ++ entriesWithin path rest

/-- Those that the node of an element leads to. -/
def entriesOfElement (path : String) : Node → List (String × Node)
  | .tagged _ node => entriesOfElement path node
  | .seq items => entriesAmong path items
  | .map entries => if holdsValue entries then [] else entriesWithin path entries
  | _ => []

/-- The items of a sequence, each followed by the entries that it leads to itself. -/
def entriesAmong (path : String) : List Node → List (String × Node)
  | [] => []
  | item :: rest => (path, item) :: (entriesOfItem path item ++ entriesAmong path rest)

/-- Those that an entry of a sequence leads to. -/
def entriesOfItem (path : String) : Node → List (String × Node)
  | .tagged _ node => entriesOfItem path node
  | .map entries => entriesWithin path entries
  | _ => []

end

/-! ## What is reached is listed -/

section Listed

variable {path : String} {entry : String × Node}

theorem entriesOfElement_untag (path : String) :
    ∀ node : Node, entriesOfElement path node.untag = entriesOfElement path node
  | .tagged _ node => by
      rw [Node.untag, entriesOfElement]
      exact entriesOfElement_untag path node
  | .null | .bool _ | .int _ | .float _ | .string _ | .seq _ | .map _ => rfl

theorem entriesOfItem_untag (path : String) :
    ∀ node : Node, entriesOfItem path node.untag = entriesOfItem path node
  | .tagged _ node => by
      rw [Node.untag, entriesOfItem]
      exact entriesOfItem_untag path node
  | .null | .bool _ | .int _ | .float _ | .string _ | .seq _ | .map _ => rfl

theorem mem_entriesWithin_of_element {key node : Node} {entries : List (Node × Node)}
    (member : (key, node) ∈ entries)
    (h : entry ∈ entriesOfElement (Path.child path key.keyName) node) :
    entry ∈ entriesWithin path entries := by
  induction entries with
  | nil => exact absurd member (by simp)
  | cons first rest ih =>
      obtain ⟨key', node'⟩ := first
      rw [entriesWithin]
      rcases List.mem_cons.mp member with same | later
      · cases same
        exact List.mem_append_left _ h
      · exact List.mem_append_right _ (ih later)

theorem mem_entriesAmong_self {item : Node} {items : List Node} (member : item ∈ items) :
    (path, item) ∈ entriesAmong path items := by
  induction items with
  | nil => exact absurd member (by simp)
  | cons first rest ih =>
      rw [entriesAmong]
      rcases List.mem_cons.mp member with rfl | later
      · exact List.mem_cons_self
      · exact List.mem_cons_of_mem _ (List.mem_append_right _ (ih later))

theorem mem_entriesAmong_of_item {item : Node} {items : List Node} (member : item ∈ items)
    (h : entry ∈ entriesOfItem path item) : entry ∈ entriesAmong path items := by
  induction items with
  | nil => exact absurd member (by simp)
  | cons first rest ih =>
      rw [entriesAmong]
      rcases List.mem_cons.mp member with rfl | later
      · exact List.mem_cons_of_mem _ (List.mem_append_left _ h)
      · exact List.mem_cons_of_mem _ (List.mem_append_right _ (ih later))

/-- A mapping that is reached adds its entries to those of the first. -/
theorem Reaches.entriesWithin_subset {place : String} {entries mapping : List (Node × Node)}
    (h : Reaches path entries place mapping) :
    entry ∈ entriesWithin place mapping → entry ∈ entriesWithin path entries := by
  induction h with
  | here => exact id
  | group member isMap noValue _ ih =>
      intro listed
      refine mem_entriesWithin_of_element member ?_
      rw [← entriesOfElement_untag, isMap, entriesOfElement, noValue]
      exact ih listed
  | item member isSeq among isMap _ ih =>
      intro listed
      refine mem_entriesWithin_of_element member ?_
      rw [← entriesOfElement_untag, isSeq, entriesOfElement]
      refine mem_entriesAmong_of_item among ?_
      rw [← entriesOfItem_untag, isMap, entriesOfItem]
      exact ih listed

theorem mem_entriesWithin_of_sequenceEntry {entries : List (Node × Node)} {place : String}
    {item : Node} (h : SequenceEntry path entries place item) :
    (place, item) ∈ entriesWithin path entries := by
  obtain ⟨around, mapping, key, node, items, reaches, member, isSeq, among, rfl⟩ := h
  refine reaches.entriesWithin_subset (mem_entriesWithin_of_element member ?_)
  rw [← entriesOfElement_untag, isSeq, entriesOfElement]
  exact mem_entriesAmong_self among

end Listed

/-! ## What is listed is reached -/

namespace SequenceEntry

variable {path place : String} {entries inner : List (Node × Node)} {key node found : Node}

theorem group (member : (key, node) ∈ entries) (isMap : node.untag = .map inner)
    (noValue : holdsValue inner = false)
    (h : SequenceEntry (Path.child path key.keyName) inner place found) :
    SequenceEntry path entries place found := by
  obtain ⟨around, mapping, key', node', items, reaches, rest⟩ := h
  exact ⟨around, mapping, key', node', items, .group member isMap noValue reaches, rest⟩

theorem item {first : Node} {items : List Node} (member : (key, node) ∈ entries)
    (isSeq : node.untag = .seq items) (among : first ∈ items) (isMap : first.untag = .map inner)
    (h : SequenceEntry (Path.child path key.keyName) inner place found) :
    SequenceEntry path entries place found := by
  obtain ⟨around, mapping, key', node', items', reaches, rest⟩ := h
  exact ⟨around, mapping, key', node', items', .item member isSeq among isMap reaches, rest⟩

end SequenceEntry

-- The induction goes into the nodes, while what is reached is said of the whole mapping: so each
-- list is a rest of it, and each node is what is left of one in it (`outer`, `first`) below tags.
mutual

theorem sequenceEntry_of_mem_within {path : String} {entry : String × Node}
    {entries : List (Node × Node)} : ∀ rest : List (Node × Node),
      (∀ element ∈ rest, element ∈ entries) → entry ∈ entriesWithin path rest →
      SequenceEntry path entries entry.1 entry.2
  | [], _, listed => absurd listed (by simp [entriesWithin])
  | (key, node) :: rest, within, listed => by
      rw [entriesWithin] at listed
      rcases List.mem_append.mp listed with here | later
      · exact sequenceEntry_of_mem_element (within _ List.mem_cons_self) node rfl here
      · exact sequenceEntry_of_mem_within rest
          (fun element member => within element (List.mem_cons_of_mem _ member)) later
termination_by structural rest => rest

theorem sequenceEntry_of_mem_element {path : String} {entry : String × Node}
    {entries : List (Node × Node)} {key outer : Node} (member : (key, outer) ∈ entries) :
    ∀ node : Node, outer.untag = node.untag →
      entry ∈ entriesOfElement (Path.child path key.keyName) node →
      SequenceEntry path entries entry.1 entry.2
  | .tagged _ node, below, listed => by
      rw [entriesOfElement] at listed
      exact sequenceEntry_of_mem_element member node below listed
  | .seq items, below, listed => by
      rw [entriesOfElement] at listed
      exact sequenceEntry_of_mem_among member below items (fun _ => id) listed
  | .map inner, below, listed => by
      rw [entriesOfElement] at listed
      cases shape : holdsValue inner with
      | true =>
          rw [shape] at listed
          exact absurd listed (by simp)
      | false =>
          rw [shape] at listed
          have found := sequenceEntry_of_mem_within inner (fun _ => id) listed
          exact .group member below shape found
  | .null, _, listed | .bool _, _, listed | .int _, _, listed | .float _, _, listed
  | .string _, _, listed => absurd listed (by simp [entriesOfElement])
termination_by structural node => node

theorem sequenceEntry_of_mem_among {path : String} {entry : String × Node}
    {entries : List (Node × Node)} {key outer : Node} (member : (key, outer) ∈ entries)
    {items : List Node} (isSeq : outer.untag = .seq items) :
    ∀ rest : List Node, (∀ item ∈ rest, item ∈ items) →
      entry ∈ entriesAmong (Path.child path key.keyName) rest →
      SequenceEntry path entries entry.1 entry.2
  | [], _, listed => absurd listed (by simp [entriesAmong])
  | first :: rest, within, listed => by
      have among : first ∈ items := within _ List.mem_cons_self
      rw [entriesAmong] at listed
      rcases List.mem_cons.mp listed with rfl | listed
      · exact ⟨path, entries, key, outer, items, .here, member, isSeq, among, rfl⟩
      rcases List.mem_append.mp listed with here | later
      · exact sequenceEntry_of_mem_item member isSeq among first rfl here
      · exact sequenceEntry_of_mem_among member isSeq rest
          (fun item later => within item (List.mem_cons_of_mem _ later)) later
termination_by structural rest => rest

theorem sequenceEntry_of_mem_item {path : String} {entry : String × Node}
    {entries : List (Node × Node)} {key outer : Node} (member : (key, outer) ∈ entries)
    {items : List Node} (isSeq : outer.untag = .seq items) {first : Node} (among : first ∈ items) :
    ∀ node : Node, first.untag = node.untag →
      entry ∈ entriesOfItem (Path.child path key.keyName) node →
      SequenceEntry path entries entry.1 entry.2
  | .tagged _ node, below, listed => by
      rw [entriesOfItem] at listed
      exact sequenceEntry_of_mem_item member isSeq among node below listed
  | .map inner, below, listed => by
      rw [entriesOfItem] at listed
      have found := sequenceEntry_of_mem_within inner (fun _ => id) listed
      exact .item member isSeq among below found
  | .null, _, listed | .bool _, _, listed | .int _, _, listed | .float _, _, listed
  | .string _, _, listed | .seq _, _, listed => absurd listed (by simp [entriesOfItem])
termination_by structural node => node

end

/-- **The entries that are listed are those that compiling comes to.** -/
theorem mem_entriesWithin_iff {path place : String} {entries : List (Node × Node)} {item : Node} :
    (place, item) ∈ entriesWithin path entries ↔ SequenceEntry path entries place item := by
  constructor
  · intro listed
    exact sequenceEntry_of_mem_within entries (fun _ => id) listed
  · intro reached
    exact mem_entriesWithin_of_sequenceEntry reached

end XmlTemplate.Template
