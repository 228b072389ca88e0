import XmlTemplate.Template.Compile

/-!
# Templates written as documents

How values, elements and whole templates are written as nodes of a document: names become text keys
of mappings, a sequence becomes a sequence of mappings, and text with attributes a mapping with the
keys `value` and `attributes`. All mappings are made by storing their entries one by one
(`Yaml.Node.mapping`), as a reader does, so an entry whose name comes again would be lost: only
where names are distinct does a mapping hold what was stored (`mapping_of_nodup`).

The first thing to be read back is a value (`Value.ofNode_toNode`). The keys of its maps have to
ascend, as those of every value do that comes from a node (`Value.ordered_ofNode`).
-/

namespace XmlTemplate

/-! ## Mappings with text keys -/

namespace Yaml.Node

/-- Entries under text keys. -/
def textKeys (entries : List (String × Node)) : List (Node × Node) :=
  entries.map fun entry => (.string entry.1, entry.2)

theorem textKeys_cons (name : String) (node : Node) (rest : List (String × Node)) :
    textKeys ((name, node) :: rest) = (.string name, node) :: textKeys rest := rfl

/-- The mapping in which the entries are stored under their names. -/
def mapping (entries : List (String × Node)) : Node :=
  .ofEntries (textKeys entries)

theorem put_textKeys {name : String} {entries : List (String × Node)}
    (h : name ∉ entries.map Prod.fst) (node : Node) :
    put (.string name) node (textKeys entries) = textKeys (entries ++ [(name, node)]) := by
  induction entries with
  | nil => rfl
  | cons entry rest ih =>
      rw [List.map_cons, List.mem_cons, not_or] at h
      have other : ¬(same (.string name) (.string entry.1) = true) := by
        rw [same, beq_iff_eq]
        exact h.1
      rw [textKeys_cons, put, if_neg other, ih h.2]
      rfl

theorem foldl_put_textKeys (stored : List (String × Node)) {entries : List (String × Node)}
    (h : ((stored ++ entries).map Prod.fst).Nodup) :
    (textKeys entries).foldl (fun stored entry => put entry.1 entry.2 stored) (textKeys stored)
      = textKeys (stored ++ entries) := by
  -- each entry in turn is new among those stored before it, so it goes behind them
  induction entries generalizing stored with
  | nil => rw [List.append_nil, show textKeys [] = [] from rfl, List.foldl_nil]
  | cons entry rest ih =>
      have fresh : entry.1 ∉ stored.map Prod.fst := by
        intro member
        rw [List.map_append, List.nodup_append] at h
        exact h.2.2 _ member _ List.mem_cons_self rfl
      rw [List.append_cons] at h ⊢
      rw [textKeys_cons, List.foldl_cons, put_textKeys fresh, ih _ h]

/-- Entries with distinct names are all kept, in their order. -/
theorem mapping_of_nodup {entries : List (String × Node)} (h : (entries.map Prod.fst).Nodup) :
    mapping entries = .map (textKeys entries) := by
  rw [mapping, ofEntries]
  exact congrArg Node.map (foldl_put_textKeys [] h)

@[simp]
theorem keyName_string (s : String) : (Node.string s).keyName = s := rfl

end Yaml.Node

/-! ## Values -/

namespace Value

open Yaml (Node)

mutual

/-- The keys of all maps ascend. -/
def Ordered : Value → Prop
  | .list items => AllOrdered items
  | .map entries => Entries.Ascending entries ∧ EntriesOrdered entries
  | _ => True

def AllOrdered : List Value → Prop
  | [] => True
  | item :: rest => Ordered item ∧ AllOrdered rest

def EntriesOrdered : List (String × Value) → Prop
  | [] => True
  | (_, value) :: rest => Ordered value ∧ EntriesOrdered rest

end

mutual

/-- The value as a node. -/
def toNode : Value → Node
  | .null => .null
  | .bool b => .bool b
  | .int n => .int n.toInt
  | .float x => .float x
  | .string s => .string s
  | .list items => .seq (toNodes items)
  | .map entries => .mapping (entryNodes entries)

def toNodes : List Value → List Node
  | [] => []
  | item :: rest => toNode item :: toNodes rest

/-- The entries with their values as nodes. -/
def entryNodes : List (String × Value) → List (String × Node)
  | [] => []
  | (key, value) :: rest => (key, toNode value) :: entryNodes rest

end

theorem map_fst_entryNodes (entries : List (String × Value)) :
    (entryNodes entries).map Prod.fst = entries.map Prod.fst := by
  induction entries with
  | nil => rfl
  | cons entry rest ih =>
      obtain ⟨key, value⟩ := entry
      rw [entryNodes, List.map_cons, List.map_cons, ih]

end Value

namespace Entries

variable {α : Type}

theorem Ascending.nodup {entries : Entries α} (h : entries.Ascending) :
    (entries.map Prod.fst).Nodup := by
  refine List.pairwise_map.mpr (h.imp fun {a b} before same => ?_)
  rw [same] at before
  exact String.lt_irrefl _ before

theorem put_of_forall_lt {key : String} {entries : Entries α} (h : ∀ entry ∈ entries, entry.1 < key)
    (value : α) : entries.put key value = entries ++ [(key, value)] := by
  induction entries with
  | nil => rfl
  | cons entry rest ih =>
      obtain ⟨k, old⟩ := entry
      have before : k < key := h _ List.mem_cons_self
      have distinct : k ≠ key := fun same => String.lt_irrefl _ (same ▸ before)
      rw [put, if_neg (String.lt_asymm before), if_neg distinct,
        ih fun other member => h other (List.mem_cons_of_mem _ member)]
      rfl

/-- What ascends is stored as it is. -/
theorem putAll_of_ascending (stored : Entries α) {pairs : Entries α} (h : Ascending (stored ++ pairs)) :
    putAll stored pairs = stored ++ pairs := by
  induction pairs generalizing stored with
  | nil => rw [List.append_nil, putAll, List.foldl_nil]
  | cons pair rest ih =>
      have last : ∀ entry ∈ stored, entry.1 < pair.1 := fun entry member =>
        (List.pairwise_append.mp h).2.2 entry member pair List.mem_cons_self
      rw [List.append_cons] at h ⊢
      rw [putAll, List.foldl_cons, put_of_forall_lt last]
      exact ih _ h

theorem Ascending.putAll {stored : Entries α} (h : stored.Ascending) (pairs : List (String × α)) :
    (stored.putAll pairs).Ascending := by
  induction pairs generalizing stored with
  | nil => exact h
  | cons pair rest ih => exact ih h.put

end Entries

namespace Value

open Yaml (Node)

theorem ofInteger_toInt (n : Int64) : ofInteger n.toInt = .int n := by
  rw [ofInteger, if_pos ⟨Int64.minValue_le_toInt n, Int64.toInt_le n⟩, Int64.ofInt_toInt]

mutual

/-- **A value is read back from its node.** -/
theorem ofNode_toNode : ∀ {value : Value}, value.Ordered → ofNode value.toNode = value
  | .null, _ => rfl
  | .bool _, _ => rfl
  | .int n, _ => ofInteger_toInt n
  | .float _, _ => rfl
  | .string _, _ => rfl
  | .list items, h => by
      rw [toNode, ofNode, ofItems_toNodes h]
  | .map entries, ⟨ascending, ordered⟩ => by
      have distinct : ((entryNodes entries).map Prod.fst).Nodup := by
        rw [map_fst_entryNodes]
        exact ascending.nodup
      rw [toNode, Node.mapping_of_nodup distinct, ofNode, ofEntries_entryNodes ordered, ofPairs,
        Entries.putAll_of_ascending [] ascending, List.nil_append]

theorem ofItems_toNodes : ∀ {items : List Value}, AllOrdered items →
    ofItems (toNodes items) = items
  | [], _ => rfl
  | item :: rest, ⟨first, all⟩ => by
      rw [toNodes, ofItems, ofNode_toNode first, ofItems_toNodes all]

theorem ofEntries_entryNodes : ∀ {entries : List (String × Value)}, EntriesOrdered entries →
    ofEntries (Node.textKeys (entryNodes entries)) = entries
  | [], _ => rfl
  | (key, value) :: rest, ⟨first, all⟩ => by
      rw [entryNodes, Node.textKeys_cons, ofEntries, ofNode_toNode first, ofEntries_entryNodes all]
      rfl

end

theorem EntriesOrdered.put {key : String} {value : Value} (hvalue : value.Ordered) :
    ∀ {entries : Entries Value}, EntriesOrdered entries → EntriesOrdered (entries.put key value)
  | [], h => ⟨hvalue, h⟩
  | (k, old) :: rest, h => by
      unfold Entries.put
      split
      · exact ⟨hvalue, h⟩
      · split
        · exact ⟨hvalue, h.2⟩
        · exact ⟨h.1, EntriesOrdered.put hvalue h.2⟩

theorem EntriesOrdered.putAll (stored : Entries Value) (h : EntriesOrdered stored) :
    ∀ {pairs : List (String × Value)}, EntriesOrdered pairs → EntriesOrdered (stored.putAll pairs)
  | [], _ => h
  | (_, _) :: _, ⟨first, all⟩ => EntriesOrdered.putAll _ (h.put first) all

mutual

/-- In a value that comes from a node the keys of all maps ascend. -/
theorem ordered_ofNode : ∀ node : Node, (ofNode node).Ordered
  | .null | .bool _ | .float _ | .string _ => trivial
  | .int n => by
      rw [ofNode, ofInteger]
      split <;> trivial
  | .seq items => allOrdered_ofItems items
  | .map entries =>
      ⟨Entries.Ascending.putAll List.Pairwise.nil _,
        EntriesOrdered.putAll [] trivial (entriesOrdered_ofEntries entries)⟩
  | .tagged _ node => ordered_ofNode node

theorem allOrdered_ofItems : ∀ items : List Node, AllOrdered (ofItems items)
  | [] => trivial
  | item :: rest => ⟨ordered_ofNode item, allOrdered_ofItems rest⟩

theorem entriesOrdered_ofEntries : ∀ entries : List (Node × Node),
    EntriesOrdered (ofEntries entries)
  | [] => trivial
  | (_, value) :: rest => ⟨ordered_ofNode value, entriesOrdered_ofEntries rest⟩

end

end Value

/-! ## Templates -/

open Yaml (Node)

/-- The attribute as a node. -/
def Attribute.toNode (a : Attribute) : Node :=
  .mapping [("name", .string a.name), ("value", a.expression.toNode)]

mutual

/-- The element as a node. -/
def Element.toNode : Element → Node
  | .leaf expression => expression.toNode
  | .attributed expression attributes =>
    .mapping [
      ("value", expression.toNode),
      ("attributes", .seq (attributes.map Attribute.toNode))]
  | .group children => .mapping (Content.toEntries children)
  | .sequence entries => .seq (Content.toItems entries)

/-- The elements as entries of a mapping. -/
def Content.toEntries : Content → List (String × Node)
  | [] => []
  | (name, element) :: rest => (name, element.toNode) :: Content.toEntries rest

/-- Lists of elements as items of a sequence. -/
def Content.toItems : List Content → List Node
  | [] => []
  | content :: rest => .mapping (Content.toEntries content) :: Content.toItems rest

end

namespace Template

/-- The sections of the document of a template. -/
def sections (root : String) (declarations : Declarations) (elements : Content) :
    List (String × Node) :=
  [("root", .string root),
    ("variables", .mapping (declarations.map fun d => (d.1, d.2.toNode))),
    ("elements", .mapping elements.toEntries)]

/-- The document that declares this root, these variables and these elements. -/
def source (root : String) (declarations : Declarations) (elements : Content) : Node :=
  .mapping (sections root declarations elements)

end Template

end XmlTemplate
