import XmlTemplate.Value.Equality

/-!
# Builtin functions

The functions that an expression can call. Arithmetic and comparisons read their operands as
numbers; `GTE` is strictly greater, exactly like `GT`. An argument that is missing is NaN as a
number, false as a condition and null as a result, and arguments beyond the last are ignored.
-/

namespace XmlTemplate

/-- A builtin function. -/
inductive Builtin where
  | sum
  | diff
  | prod
  | quot
  | eq
  | lt
  | lte
  | gt
  | gte
  | ifThen
  | notThen
deriving Repr, DecidableEq

namespace Builtin

/-- The name of a function in expressions. -/
def name : Builtin → String
  | .sum => "SUM"
  | .diff => "DIFF"
  | .prod => "PROD"
  | .quot => "QUOT"
  | .eq => "EQ"
  | .lt => "LT"
  | .lte => "LTE"
  | .gt => "GT"
  | .gte => "GTE"
  | .ifThen => "IF"
  | .notThen => "NOT"

/-- All functions. -/
def all : List Builtin :=
  [.sum, .diff, .prod, .quot, .eq, .lt, .lte, .gt, .gte, .ifThen, .notThen]

/-- The function with the name. -/
def ofName? (name : String) : Option Builtin :=
  all.find? fun f => f.name == name

/-- The number of arguments that strict mode demands. -/
def arity : Builtin → Nat
  | .ifThen | .notThen => 3
  | _ => 2

/-- An argument as a number. -/
def number (arguments : List Value) (i : Nat) : Float :=
  match arguments[i]? with
  | some value => value.toNumber
  | none => Decimal.nan

/-- An argument as a condition. -/
def condition (arguments : List Value) (i : Nat) : Bool :=
  match arguments[i]? with
  | some value => value.isTruthy
  | none => false

/-- An argument as it is. -/
def choice (arguments : List Value) (i : Nat) : Value :=
  arguments[i]?.getD .null

/-- Whether two arguments are equal; two missing ones are. -/
def equal : Option Value → Option Value → Bool
  | some a, some b => a.strictEq b
  | none, none => true
  | _, _ => false

/-- The result of the function. -/
def apply (f : Builtin) (arguments : List Value) : Value :=
  let number := number arguments
  let choice := choice arguments
  match f with
  | .sum => .float (number 0 + number 1)
  | .diff => .float (number 0 - number 1)
  | .prod => .float (number 0 * number 1)
  | .quot => .float (number 0 / number 1)
  | .eq => .bool (equal arguments[0]? arguments[1]?)
  | .lt => .bool (number 0 < number 1)
  | .lte => .bool (number 0 ≤ number 1)
  | .gt | .gte => .bool (number 1 < number 0)
  | .ifThen => if condition arguments 0 then choice 1 else choice 2
  | .notThen => if condition arguments 0 then choice 2 else choice 1

end Builtin

end XmlTemplate
