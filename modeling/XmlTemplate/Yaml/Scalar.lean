import XmlTemplate.Yaml.Node
import XmlTemplate.Value.Number

/-!
# Types of scalars

What type a scalar has. A plain one is told by its text; a tag of the core schema converts the text
or fails, also of a quoted one.
-/

namespace XmlTemplate.Yaml

namespace Scalar

/-- The spellings of null, apart from the empty text. -/
def isNull (s : List Char) : Bool :=
  ["null", "Null", "NULL", "~"].any fun word => word.toList == s

/-- The truth value that a text spells. -/
def bool? (s : List Char) : Option Bool :=
  if ["true", "True", "TRUE"].any fun word => word.toList == s then some true
  else if ["false", "False", "FALSE"].any fun word => word.toList == s then some false
  else none

/-- The text behind a sign that it starts with, if it does. -/
def withoutSign : List Char → List Char
  | '+' :: rest => rest
  | '-' :: rest => rest
  | s => s

/-- Whether the text consists of more than one digit and starts with zero, apart from its sign. It
is then no number. -/
def hasLeadingZero (s : List Char) : Bool :=
  match withoutSign s with
  | '0' :: d :: rest => (d :: rest).all Char.isDigit
  | _ => false

/-- The number without its sign: marked with a radix, or in decimal digits. -/
def magnitude? : List Char → Option Nat
  | '0' :: 'x' :: digits => Decimal.ofRadix? 16 digits
  | '0' :: 'o' :: digits => Decimal.ofRadix? 8 digits
  | '0' :: 'b' :: digits => Decimal.ofRadix? 2 digits
  | digits => Decimal.ofRadix? 10 digits

/-- The integer of any size that a text spells. -/
def integer? (s : List Char) : Option Int :=
  if hasLeadingZero s then none
  else match s with
    | '+' :: digits => (magnitude? digits).map Int.ofNat
    | '-' :: digits => (magnitude? digits).map fun n => -(n : Int)
    | digits => (magnitude? digits).map Int.ofNat

/-- The float that a text spells. What is too large for one is none. -/
def float? (s : List Char) : Option Float :=
  let unsigned := match s with
    | '+' :: rest => rest
    | s => s
  let isOneOf := fun (words : List String) (s : List Char) => words.any fun w => w.toList == s
  -- a plus sign must not have another sign behind it
  if s ≠ unsigned ∧ unsigned.head?.any (fun c => c == '+' || c == '-') then none
  else if isOneOf [".inf", ".Inf", ".INF"] unsigned then some (Decimal.infinity false)
  else if isOneOf ["-.inf", "-.Inf", "-.INF"] s then some (Decimal.infinity true)
  else if isOneOf [".nan", ".NaN", ".NAN"] s then some Decimal.nan
  else ((Decimal.Literal.parse? unsigned).map Decimal.Literal.toFloat).filter Float.isFinite

/-- The node of an integer. One that needs more than 64 bits and fits into 128 is refused, and a
larger one is not taken for an integer. -/
inductive IntegerNode where
  | none
  | refused
  | found (n : Int)

/-- How a text reads as an integer. -/
def integerNode (s : List Char) : IntegerNode :=
  match integer? s with
  | Option.none => .none
  | some n =>
    if Node.fitsWord n then .found n
    else if -(Nat.pow 2 127 : Int) ≤ n ∧ n < Nat.pow 2 128 then .refused
    else .none

/-- The node of a plain scalar. -/
def plain? (text : String) : Option Node :=
  let s := text.toList
  if s.isEmpty || isNull s then some .null
  else match bool? s with
    | some b => some (.bool b)
    | none =>
      match integerNode s with
      | .found n => some (.int n)
      | .refused => none
      | .none =>
        match if hasLeadingZero s then none else float? s with
        | some x => some (.float x)
        | none => some (.string text)

/-- The node of a scalar with the tag of a type. Other types leave the text as it is. -/
def typed? (type : String) (text : String) : Option Node :=
  let s := text.toList
  match type with
  | "tag:yaml.org,2002:bool" => (bool? s).map .bool
  | "tag:yaml.org,2002:null" => if isNull s then some .null else none
  | "tag:yaml.org,2002:float" => (float? s).map .float
  | "tag:yaml.org,2002:int" =>
    match integerNode s with
    | .found n => some (.int n)
    | _ => none
  | _ => some (.string text)

/-- The name of a tag of one's own, which starts with an exclamation mark. Its bytes have to be
UTF-8. A second exclamation mark does not count either. -/
def ownTag? (tag : List UInt8) : Option String :=
  match tag with
  | 0x21 :: rest =>
    let name := if rest.isEmpty then tag else rest
    (String.fromUTF8? ⟨name.toArray⟩).map fun name =>
      match name.toList with
      | '!' :: c :: rest => String.ofList (c :: rest)
      | _ => name
  | _ => none

/-- The node of a scalar. -/
def node? (tag : Option (List UInt8)) (plain : Bool) (text : String) : Option Node :=
  let untyped := if plain then plain? text else some (.string text)
  match tag with
  | none => untyped
  | some bytes =>
    match ownTag? bytes with
    | some name => untyped.map (.tagged name)
    | none =>
      if bytes.head? = some 0x21 then untyped
      else match String.fromUTF8? ⟨bytes.toArray⟩ with
        | some type => typed? type text
        | none => some (.string text)

end Scalar

end XmlTemplate.Yaml
