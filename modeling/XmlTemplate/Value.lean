import XmlTemplate.Dictionary
import XmlTemplate.Decimal.Layout

/-!
# Values

The data that is turned into markup, and at the same time what an expression evaluates to. A value
has a kind, a text, and a reading as a condition; its reading as a number and its equalities are in
`XmlTemplate.Value.Number` and `XmlTemplate.Value.Equality`.
-/

namespace XmlTemplate

/-- Data. The entries of a map ascend by their keys when they come from `Value.ofPairs`. -/
inductive Value where
  | null
  | bool (b : Bool)
  | int (n : Int64)
  | float (x : Float)
  | string (s : String)
  | list (items : List Value)
  | map (entries : List (String × Value))

instance : Inhabited Value := ⟨.null⟩

/-- The kinds of values. -/
inductive Kind where
  | none
  | bool
  | integer
  | float
  | string
  | list
  | map
deriving Repr, DecidableEq

/-- The word for a kind in messages. -/
def Kind.word : Kind → String
  | .none => "none"
  | .bool => "bool"
  | .integer => "integer"
  | .float => "float"
  | .string => "string"
  | .list => "list"
  | .map => "map"

namespace Value

/-- The kind of a value. -/
def kind : Value → Kind
  | .null => .none
  | .bool _ => .bool
  | .int _ => .integer
  | .float _ => .float
  | .string _ => .string
  | .list _ => .list
  | .map _ => .map

/-- The map with the given pairs; of two values under one key the later stays. -/
def ofPairs (pairs : List (String × Value)) : Value :=
  .map (Entries.putAll [] pairs)

/-- Numbers from `10 ^ -6` up to below `10 ^ 21` are written without an exponent. -/
def numberLayout : Decimal.Layout where
  positionalFrom := -6
  positionalBelow := 21
  exponentMark := "e+"
  nan := "NaN"
  infinity := "Infinity"

mutual

/-- The text of a value, before it is escaped. The items of a list are joined with commas, and a
map has no text. -/
def display : Value → String
  | .null => ""
  | .bool b => if b then "true" else "false"
  | .int n => toString n.toInt
  | .float x => numberLayout.float x
  | .string s => s
  | .list [] => ""
  | .list (item :: rest) => item.display ++ displayRest rest
  | .map _ => ""

/-- The texts of further items, each after a comma. -/
def displayRest : List Value → String
  | [] => ""
  | item :: rest => "," ++ item.display ++ displayRest rest

end

/-- Whether the value counts as true in a condition. Zero, NaN and the empty text do not, the text
`false` does. -/
def isTruthy : Value → Bool
  | .null => false
  | .bool b => b
  | .int n => n != 0
  | .float x => !(x == 0 || x.isNaN)
  | .string s => s != ""
  | .list _ => true
  | .map _ => true

/-- The entry of a map; other values have none. -/
def field? (value : Value) (key : String) : Option Value :=
  match value with
  | .map entries => Entries.get? key entries
  | _ => none

/-- The segments of a dotted path. -/
def segments : List Char → List (List Char)
  | [] => [[]]
  | '.' :: rest => [] :: segments rest
  | c :: rest => match segments rest with
    | [] => [[c]]
    | first :: more => (c :: first) :: more

/-- What a dotted path leads to: each segment selects an entry of a map. -/
def lookup? (value : Value) (path : List Char) : Option Value :=
  (segments path).foldlM (fun v segment => v.field? (String.ofList segment)) value

end Value

end XmlTemplate
