import XmlTemplate.Yaml.Merge
import XmlTemplate.Yaml.Scalar
import XmlTemplate.Yaml.Tree.Parser
import XmlTemplate.Yaml.Token.Lexer

/-!
# Documents

How the tree of a document becomes a node: scalars get their types, and aliases stand for the nodes
with their anchors. The size of what may come out is limited, in depth and in the number of aliases
that are followed.
-/

namespace XmlTemplate.Yaml

/-! ## Anchors -/

/-- A tree whose aliases are numbers of anchors. -/
inductive Linked where
  | alias (id : Nat)
  | scalar (tag : Option (List UInt8)) (plain : Bool) (text : String)
  | seq (tag : Option (List UInt8)) (items : List Linked)
  | map (tag : Option (List UInt8)) (entries : List (Linked × Linked))

/-- The anchors met so far. An anchor has the number of different names before it, where a name that
comes again counts as one before itself. Nodes are kept by their places among all that have an
anchor, and a number stands for the last place that was given it. -/
structure Anchors where
  ids : List (String × Nat) := []
  /-- The place that each number stands for, the latest first. -/
  places : List (Nat × Nat) := []
  count : Nat := 0
  nodes : List (Nat × Linked) := []

namespace Anchors

/-- Gives an anchor its number before the node is read; the answer is the node's place. -/
def enter (anchor : Option String) (a : Anchors) : Option Nat × Anchors :=
  match anchor with
  | none => (none, a)
  | some name =>
    let id := a.ids.length
    (some a.count, { a with
      ids := (name, id) :: a.ids.filter (·.1 != name)
      places := (id, a.count) :: a.places
      count := a.count + 1 })

/-- Keeps a node under its place. -/
def leave (place : Option Nat) (node : Linked) (a : Anchors) : Anchors :=
  match place with
  | none => a
  | some place => { a with nodes := (place, node) :: a.nodes }

/-- The node that a number stands for. -/
def node? (id : Nat) (a : Anchors) : Option Linked :=
  (a.places.lookup id).bind fun place => a.nodes.lookup place

end Anchors

mutual

/-- Replaces the names of aliases by numbers. Each name must have been an anchor before. -/
def link? (anchors : Anchors) : Tree → Option (Linked × Anchors)
  | .alias name => (anchors.ids.lookup name).map fun id => (.alias id, anchors)
  | .scalar properties plain text =>
    let (place, anchors) := anchors.enter properties.anchor
    let node := Linked.scalar properties.tag plain text
    some (node, anchors.leave place node)
  | .seq properties items => do
    let (place, anchors) := anchors.enter properties.anchor
    let (items, anchors) ← linkItems? anchors items
    let node := Linked.seq properties.tag items
    some (node, anchors.leave place node)
  | .map properties entries => do
    let (place, anchors) := anchors.enter properties.anchor
    let (entries, anchors) ← linkEntries? anchors entries
    let node := Linked.map properties.tag entries
    some (node, anchors.leave place node)

/-- The items in order. -/
def linkItems? (anchors : Anchors) : List Tree → Option (List Linked × Anchors)
  | [] => some ([], anchors)
  | item :: rest => do
    let (item, anchors) ← link? anchors item
    let (rest, anchors) ← linkItems? anchors rest
    some (item :: rest, anchors)

/-- The entries in order, each key before its value. -/
def linkEntries? (anchors : Anchors) : List (Tree × Tree) → Option (List (Linked × Linked) × Anchors)
  | [] => some ([], anchors)
  | (key, value) :: rest => do
    let (key, anchors) ← link? anchors key
    let (value, anchors) ← link? anchors value
    let (rest, anchors) ← linkEntries? anchors rest
    some ((key, value) :: rest, anchors)

end

/-! ## Sizes -/

mutual

/-- The number of scalars, aliases, and starts and ends of collections. -/
def Linked.size : Linked → Nat
  | .alias _ => 1
  | .scalar _ _ _ => 1
  | .seq _ items => 2 + sizeItems items
  | .map _ entries => 2 + sizeEntries entries

/-- The sum of the sizes of the items. -/
def Linked.sizeItems : List Linked → Nat
  | [] => 0
  | item :: rest => item.size + sizeItems rest

/-- The sum of the sizes of keys and values. -/
def Linked.sizeEntries : List (Linked × Linked) → Nat
  | [] => 0
  | (key, value) :: rest => key.size + value.size + sizeEntries rest

end

/-- The number of collections that may be nested. -/
def depthLimit : Nat := 128

/-- The number of aliases that may be followed, for each part of the document. -/
def aliasesPerPart : Nat := 100

/-! ## Nodes -/

/-- Puts a tag of one's own around a collection; other tags do not count. -/
def tagCollection (tag : Option (List UInt8)) (node : Node) : Node :=
  match tag.bind Scalar.ownTag? with
  | some name => .tagged name node
  | none => node

/-- Adds an entry to a mapping. No key may occur twice. -/
def addEntry? (entries : List (Node × Node)) (key value : Node) : Option (List (Node × Node)) :=
  if Node.hasKey key entries then none else some (entries ++ [(key, value)])

/-- The nodes of several things in order, with the number of aliases still to be followed. -/
def inOrder? {α β : Type} (f : Nat → α → Option (β × Nat)) (aliases : Nat) :
    List α → Option (List β × Nat)
  | [] => some ([], aliases)
  | a :: rest => do
    let (b, aliases) ← f aliases a
    let (bs, aliases) ← inOrder? f aliases rest
    some (b :: bs, aliases)

/-- The node of a linked tree, at most so many collections deep and with at most so many aliases
followed. -/
def expand? (anchors : Anchors) (depth aliases : Nat) (tree : Linked) : Option (Node × Nat) := do
  let (tree, aliases) ← match tree with
    | .alias id =>
      match aliases, anchors.node? id with
      | left + 1, some node => some (node, left)
      | _, _ => none
    | tree => some (tree, aliases)
  match depth, tree with
  -- an anchor is never kept with an alias
  | _, .alias _ => none
  | _, .scalar tag plain text => (Scalar.node? tag plain text).map (·, aliases)
  | depth + 1, .seq tag items => do
    let (items, aliases) ← inOrder? (expand? anchors depth) aliases items
    some (tagCollection tag (.seq items), aliases)
  | depth + 1, .map tag entries => do
    let (entries, aliases) ← inOrder? (fun aliases entry => do
      let (key, aliases) ← expand? anchors depth aliases entry.1
      let (value, aliases) ← expand? anchors depth aliases entry.2
      some ((key, value), aliases)) aliases entries
    let entries ← entries.foldlM (fun stored entry => addEntry? stored entry.1 entry.2) []
    some (tagCollection tag (.map entries), aliases)
  | 0, _ => none

/-- The node of a tree. -/
def nodeOf? (tree : Tree) : Option Node := do
  let (linked, anchors) ← link? {} tree
  let (node, _) ← expand? anchors depthLimit (aliasesPerPart * linked.size) linked
  some node

/-- Reads a text that holds one YAML document or nothing, and applies its merge keys. -/
def read? (text : String) : Option Node := do
  let glyphs ← glyphs? text.toList
  let tokens ← tokens? glyphs
  let tree ← Tree.ofTokens? tokens
  (← nodeOf? tree).merged?

end XmlTemplate.Yaml
