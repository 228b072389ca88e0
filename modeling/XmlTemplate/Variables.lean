import XmlTemplate.Expression.Evaluate

/-!
# Variables

A template declares variables as named expressions in an order, and so does the caller of a render.
The two lists are merged, and the expressions are evaluated one after the other, each with the
variables before it and without data.
-/

namespace XmlTemplate

/-- Named expressions in their order. -/
abbrev Declarations := List (String × Value)

namespace Declarations

/-- Gives the name the expression, at its place if it has one and else at the end. -/
def assign (name : String) (expression : Value) : Declarations → Declarations
  | [] => [(name, expression)]
  | (n, old) :: rest =>
    if n = name then (n, expression) :: rest else (n, old) :: assign name expression rest

/-- The runtime declarations followed by those of the template, each name at its first place with
its last expression. -/
def merge (runtime template : Declarations) : Declarations :=
  (runtime ++ template).foldl (fun merged d => assign d.1 d.2 merged) []

end Declarations

/-- Evaluates the declarations in order and stores their values. A name that is already stored is
seen with its old value. -/
def Variables.extend (mode : Mode) (table : Variables) : Declarations → Run Variables
  | [] => pure table
  | (name, expression) :: rest => do
    let value ← (expression.evaluate mode table .null).locate (Path.child "variables" name)
    extend mode (table.put name value) rest

end XmlTemplate
