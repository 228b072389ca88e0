import XmlTemplate.Template

/-!
# Rendering

How a template and data become markup. Groups see the data of their surroundings, the entries of a
sequence see one item of the list after the other. Both are one level deeper than where they stand.
-/

namespace XmlTemplate

/-- What stays the same while a template is rendered. -/
structure Scope where
  mode : Mode
  table : Variables
  /-- The deepest level at which elements may stand, the root's own being level zero. -/
  maxDepth : Option Nat

/-- Enters a level of elements, or fails if it is deeper than allowed. -/
def Scope.enter (scope : Scope) (path : String) (depth : Nat) : Run Unit :=
  match scope.maxDepth with
  | some limit =>
    if limit < depth then Run.fail (.located (.depthExceeded limit) path)
    else Run.emit (.entered path depth)
  | none => Run.emit (.entered path depth)

/-- The value of an expression in the element with the path. -/
def Scope.evaluate (scope : Scope) (path : String) (data expression : Value) : Run Value :=
  (expression.evaluate scope.mode scope.table data).locate path

/-- The attributes with their values, evaluated in order. -/
def Scope.attributes (scope : Scope) (path : String) (data : Value) :
    List Attribute → Run (List Xml.Attribute)
  | [] => pure []
  | ⟨name, expression⟩ :: rest => do
    let value ← scope.evaluate path data expression
    let attributes ← scope.attributes path data rest
    pure (⟨name, value.display⟩ :: attributes)

/-- Writes an element around what the run writes. -/
def writeElement (name : String) (attributes : List Xml.Attribute) (inside : Run Unit) :
    Run Unit := do
  Run.write (.startTag name attributes)
  inside
  Run.write (.endTag name)

/-- Does the same for each item. -/
def forEachItem (action : Value → Run Unit) : List Value → Run Unit
  | [] => pure ()
  | item :: rest => do
    action item
    forEachItem action rest

mutual

/-- Renders the elements of one level, one after the other. -/
def renderElements (scope : Scope) (path : String) (depth : Nat) (data : Value) :
    List (String × Element) → Run Unit
  | [] => pure ()
  | (name, element) :: rest => do
    renderElement scope name (Path.child path name) depth data element
    renderElements scope path depth data rest

/-- Renders one element. Everything in it that can degrade comes before the start tag. -/
def renderElement (scope : Scope) (name path : String) (depth : Nat) (data : Value) :
    Element → Run Unit
  | .leaf expression => do
    let value ← scope.evaluate path data expression
    writeElement name [] (Run.write (.text value.display))
  | .attributed expression attributes => do
    -- the text comes before the attributes, though it is written after them
    let value ← scope.evaluate path data expression
    let attributes ← scope.attributes path data attributes
    writeElement name attributes (Run.write (.text value.display))
  | .group children =>
    writeElement name [] do
      scope.enter path (depth + 1)
      renderElements scope path (depth + 1) data children
  | .sequence entries =>
    match data.lookup? name.toList with
    | some (.list items) =>
      writeElement name [] do
        forEachItem (fun item => renderEntries scope path (depth + 1) item entries) items
    | found =>
      (Run.degrade scope.mode (.sequenceWithoutList path (found.map Value.kind))).locate path

/-- Renders the entries of a sequence for one item, each of them a level of its own. -/
def renderEntries (scope : Scope) (path : String) (depth : Nat) (item : Value) :
    List (List (String × Element)) → Run Unit
  | [] => pure ()
  | content :: rest => do
    scope.enter path depth
    renderElements scope path depth item content
    renderEntries scope path depth item rest

end

/-- What a render needs besides the template. -/
structure Request where
  /-- The data, or why it could not be converted. -/
  data : Except String Value := .ok .null
  /-- Further variables. Those of the template come before them. -/
  declarations : Declarations := []
  maxDepth : Option Nat := none

/-- Renders a template. The declared variables are evaluated anew, together with those of the
request and on top of the values they had when the template was compiled. -/
def Template.render (template : Template) (mode : Mode) (request : Request) : Run Unit := do
  let data ← Run.ofExcept (request.data.mapError fun reason => ⟨.unconvertibleData reason, none⟩)
  let table ← Variables.extend mode template.globals
    (Declarations.merge request.declarations template.declarations)
  Run.emit (.rendering template.root table.size)
  let scope : Scope := { mode, table, maxDepth := request.maxDepth }
  writeElement template.root [] do
    scope.enter "" 0
    renderElements scope "" 0 data template.elements

end XmlTemplate
