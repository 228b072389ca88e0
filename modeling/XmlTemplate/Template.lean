import XmlTemplate.Variables

/-!
# Templates

A template that has been compiled: what shape each element has is settled, and rendering only walks
the tree.
-/

namespace XmlTemplate

/-- An attribute with the expression of its value. -/
structure Attribute where
  name : String
  expression : Value

/-- An element of a template, without its name. -/
inductive Element where
  /-- Text. -/
  | leaf (expression : Value)
  /-- Text and attributes. -/
  | attributed (expression : Value) (attributes : List Attribute)
  /-- Elements that see the same data. -/
  | group (children : List (String × Element))
  /-- Lists of elements, each repeated for every item of a list in the data. -/
  | sequence (entries : List (List (String × Element)))

/-- Named elements in their order. -/
abbrev Content := List (String × Element)

/-- A compiled template. -/
structure Template where
  /-- The name of the root element. -/
  root : String
  /-- The variables that the template declares. -/
  declarations : Declarations
  /-- The values of these variables, as evaluated when the template was compiled. -/
  globals : Variables
  elements : Content

end XmlTemplate
