/-!
# Trees

A document as it is nested, before its scalars have types and its aliases stand for anything.
-/

namespace XmlTemplate.Yaml

/-- What may be put in front of a node: a name to refer to it, and a tag with its handle resolved,
in bytes. -/
structure Properties where
  anchor : Option String := none
  tag : Option (List UInt8) := none
deriving Repr, DecidableEq

/-- A node of a document as it is written. -/
inductive Tree where
  /-- Another place of the node with the anchor. -/
  | alias (anchor : String)
  /-- A scalar; `plain` says that it stands without quotes or a block header. -/
  | scalar (properties : Properties) (plain : Bool) (text : String)
  | seq (properties : Properties) (items : List Tree)
  | map (properties : Properties) (entries : List (Tree × Tree))

instance : Inhabited Tree := ⟨.alias ""⟩

/-- The node that stands where nothing is written. -/
def Tree.nothing : Tree :=
  .scalar {} true ""

end XmlTemplate.Yaml
