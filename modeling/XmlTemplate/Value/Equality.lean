import XmlTemplate.Value.Number

/-!
# Equalities of values

Two comparisons: `sameValue` tells values of different kinds apart and goes into lists and maps,
`strictEq` is the one that expressions can ask for, which takes integers and floats alike as numbers
and never finds two lists or two maps equal.
-/

namespace XmlTemplate

namespace Value

mutual

/-- Whether the values are of one kind and equal; floats are compared as numbers. -/
def sameValue : Value → Value → Bool
  | .null, .null => true
  | .bool a, .bool b => a == b
  | .int a, .int b => a == b
  | .float a, .float b => a == b
  | .string a, .string b => a == b
  | .list a, .list b => sameItems a b
  | .map a, .map b => sameEntries a b
  | _, _ => false

/-- Whether the lists agree item by item. -/
def sameItems : List Value → List Value → Bool
  | [], [] => true
  | a :: as, b :: bs => sameValue a b && sameItems as bs
  | _, _ => false

/-- Whether the entries agree one by one, keys and values. -/
def sameEntries : List (String × Value) → List (String × Value) → Bool
  | [], [] => true
  | (k, a) :: as, (l, b) :: bs => k == l && sameValue a b && sameEntries as bs
  | _, _ => false

end

/-- Equality without conversion between kinds, except that integers and floats are both numbers. -/
def strictEq : Value → Value → Bool
  | .null, .null => true
  | .bool a, .bool b => a == b
  | .string a, .string b => a == b
  | .int a, .int b => a == b
  | .int a, .float b => (Value.int a).toNumber == b
  | .float a, .int b => a == (Value.int b).toNumber
  | .float a, .float b => a == b
  | _, _ => false

end Value

end XmlTemplate
