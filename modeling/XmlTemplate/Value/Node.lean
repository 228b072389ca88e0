import XmlTemplate.Value
import XmlTemplate.Yaml.Node
import XmlTemplate.Decimal.Binary

/-!
# Values of nodes

How a document node reads as a value: tags are dropped, the keys of a mapping become texts, and an
integer above the signed 64-bit range becomes the nearest float.
-/

namespace XmlTemplate

namespace Value

open Yaml (Node)

/-- The value of an integer node. -/
def ofInteger (n : Int) : Value :=
  if Int64.minValue.toInt ≤ n ∧ n ≤ Int64.maxValue.toInt then .int (Int64.ofInt n)
  else .float (Decimal.ofInt n)

mutual

/-- The value of a node. -/
def ofNode : Node → Value
  | .null => .null
  | .bool b => .bool b
  | .int n => ofInteger n
  | .float x => .float x
  | .string s => .string s
  | .seq items => .list (ofItems items)
  | .map entries => .ofPairs (ofEntries entries)
  | .tagged _ node => ofNode node

/-- The values of the items. -/
def ofItems : List Node → List Value
  | [] => []
  | item :: rest => ofNode item :: ofItems rest

/-- The entries with the texts of their keys, in the order written. -/
def ofEntries : List (Node × Node) → List (String × Value)
  | [] => []
  | (key, value) :: rest => ((ofNode key).display, ofNode value) :: ofEntries rest

end

end Value

/-- The name that a key of a mapping gives to its entry. -/
def Yaml.Node.keyName (key : Yaml.Node) : String :=
  (Value.ofNode key).display

end XmlTemplate
