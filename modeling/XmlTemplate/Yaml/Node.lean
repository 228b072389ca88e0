/-!
# Nodes

A YAML document once its text has been read: scalars with their types, sequences, mappings in the
order they were written, and tags. Data to be rendered comes in the same form.
-/

namespace XmlTemplate.Yaml

/-- A node of a document. Integers range over 64 bits, signed or unsigned. -/
inductive Node where
  | null
  | bool (b : Bool)
  | int (n : Int)
  | float (x : Float)
  | string (s : String)
  | seq (items : List Node)
  | map (entries : List (Node × Node))
  | tagged (tag : String) (node : Node)

instance : Inhabited Node := ⟨.null⟩

namespace Node

/-- The node below all its tags. -/
def untag : Node → Node
  | .tagged _ node => node.untag
  | node => node

/-- The text of a string node, looking through tags. -/
def text? : Node → Option String
  | .string s => some s
  | .tagged _ node => node.text?
  | _ => none

/-- Whether the node is the given text and has no tag. -/
def isText (s : String) : Node → Bool
  | .string t => t == s
  | _ => false

/-- Whether 64 bits hold the integer, signed or unsigned. -/
def fitsWord (n : Int) : Bool :=
  Int64.minValue.toInt ≤ n && n < UInt64.size

/-- An integer; one that needs more than 64 bits is kept as the text of its digits. -/
def ofInteger (n : Int) : Node :=
  if fitsWord n then .int n else .string (toString n)

mutual

/-- Whether two nodes are the same key of a mapping. An integer is never the same as a float, NaN
is the same as itself, and the order of a mapping does not count. -/
def same : Node → Node → Bool
  | .null, .null => true
  | .bool a, .bool b => a == b
  | .int a, .int b => a == b
  | .float a, .float b => a == b || (a.isNaN && b.isNaN)
  | .string a, .string b => a == b
  | .seq a, .seq b => sameItems a b
  | .map a, .map b => a.length == b.length && holdsAll b a
  | .tagged s a, .tagged t b => s == t && same a b
  | _, _ => false

/-- Whether the sequences agree item by item. -/
def sameItems : List Node → List Node → Bool
  | [], [] => true
  | a :: as, b :: bs => same a b && sameItems as bs
  | _, _ => false

/-- Whether each of the entries is found among the others. -/
def holdsAll (others : List (Node × Node)) : List (Node × Node) → Bool
  | [] => true
  | (key, value) :: rest =>
    (others.any fun other => same key other.1 && same value other.2) && holdsAll others rest

end

/-- Whether the mapping has the key. -/
def hasKey (key : Node) (entries : List (Node × Node)) : Bool :=
  entries.any fun entry => key.same entry.1

/-- Stores the value under the key: at the place of the same key, or else at the end. -/
def put (key value : Node) : List (Node × Node) → List (Node × Node)
  | [] => [(key, value)]
  | (k, old) :: rest =>
    if key.same k then (k, value) :: rest else (k, old) :: put key value rest

/-- The mapping with the given entries, stored in their order. -/
def ofEntries (entries : List (Node × Node)) : Node :=
  .map (entries.foldl (fun stored entry => put entry.1 entry.2 stored) [])

end Node

end XmlTemplate.Yaml
