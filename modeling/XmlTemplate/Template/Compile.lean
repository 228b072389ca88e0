import XmlTemplate.Template
import XmlTemplate.Value.Node
import XmlTemplate.Xml.Name

/-!
# Compilation

How a document becomes a template. A mapping with the key `value` is an element with attributes, any
other mapping a group, a sequence holds one list of elements per entry, and a scalar is a leaf. Tags
are looked through everywhere. Strict mode checks all names.
-/

namespace XmlTemplate

open Yaml (Node)

namespace Template

/-- In strict mode, fails if the name is no XML name. -/
def checkName (mode : Mode) (name path : String) : Run Unit :=
  if mode = .strict ∧ !Xml.isName name.toList then
    Run.fail (.located (.invalidName name) path)
  else pure ()

/-- The last value under the key, looking through the tags of keys. -/
def section? (key : String) (entries : List (Node × Node)) : Option Node :=
  (entries.reverse.find? fun entry => entry.1.text? = some key).map Prod.snd

/-! ## Elements -/

/-- An attribute, unless it is no mapping or has no name. -/
def compileAttribute (mode : Mode) (path : String) (node : Node) : Run (Option Attribute) :=
  match node.untag with
  | .map entries =>
    match ((section? "name" entries).map Node.untag).getD .null with
    | .null => do
      Run.emit (.skippedAttribute .unnamed path)
      pure none
    | name => do
      checkName mode name.keyName path
      let expression := ((section? "value" entries).map Value.ofNode).getD .null
      pure (some ⟨name.keyName, expression⟩)
  | _ => do
    Run.emit (.skippedAttribute .notMapping path)
    pure none

/-- The attributes that are kept, in order. -/
def compileAttributes (mode : Mode) (path : String) : List Node → Run (List Attribute)
  | [] => pure []
  | node :: rest => do
    let attribute? ← compileAttribute mode path node
    let attributes ← compileAttributes mode path rest
    pure (attribute?.toList ++ attributes)

/-- The attributes under the key `attributes`; anything but a sequence there is ignored. Of several
such keys, which differ in their tags, each adds its attributes. -/
def compileAttributeSections (mode : Mode) (path : String) :
    List (Node × Node) → Run (List Attribute)
  | [] => pure []
  | (key, value) :: rest => do
    let attributes ← match key.text?, value.untag with
      | some "attributes", .seq nodes => compileAttributes mode path nodes
      | _, _ => pure []
    let more ← compileAttributeSections mode path rest
    pure (attributes ++ more)

/-- An element with attributes. -/
def compileAttributed (mode : Mode) (path : String) (entries : List (Node × Node)) :
    Run Element := do
  let attributes ← compileAttributeSections mode path entries
  let expression := ((section? "value" entries).map Value.ofNode).getD .null
  pure (.attributed expression attributes)

mutual

/-- The elements of a mapping, in order. -/
def compileContent (mode : Mode) (path : String) : List (Node × Node) → Run Content
  | [] => pure []
  | (key, value) :: rest => do
    let name := key.keyName
    let place := Path.child path name
    checkName mode name place
    let element ← compileElement mode place value
    let content ← compileContent mode path rest
    pure ((name, element) :: content)

/-- An element, by the shape of its node. -/
def compileElement (mode : Mode) (path : String) : Node → Run Element
  | .tagged _ node => compileElement mode path node
  | .seq items => do
    let entries ← compileEntries mode path items
    pure (.sequence entries)
  | .map entries =>
    -- a tagged key `value` does not make an element with attributes
    if entries.any fun entry => entry.1.isText "value" then compileAttributed mode path entries
    else do
      let children ← compileContent mode path entries
      pure (.group children)
  | .null => pure (.leaf .null)
  | .bool b => pure (.leaf (Value.ofNode (.bool b)))
  | .int n => pure (.leaf (Value.ofNode (.int n)))
  | .float x => pure (.leaf (Value.ofNode (.float x)))
  | .string s => pure (.leaf (Value.ofNode (.string s)))

/-- The entries of a sequence. They have the path of the sequence. -/
def compileEntries (mode : Mode) (path : String) : List Node → Run (List Content)
  | [] => pure []
  | node :: rest => do
    let content ← compileEntry mode path node
    let contents ← compileEntries mode path rest
    pure (content :: contents)

/-- An entry of a sequence, which has to be a mapping. -/
def compileEntry (mode : Mode) (path : String) : Node → Run Content
  | .tagged _ node => compileEntry mode path node
  | .map entries => compileContent mode path entries
  | node => Run.fail (.located (.entryNotMapping (Value.ofNode node).kind) path)

end

/-! ## Templates -/

/-- The name of the root element: a text, a number or a truth value. -/
def compileRoot (entries : List (Node × Node)) : Run String :=
  match (section? "root" entries).map Node.untag with
  | none => Run.fail ⟨.missingRoot, none⟩
  | some (.string s) => pure s
  | some (.int n) => pure (Value.ofNode (.int n)).display
  | some (.float x) => pure (Value.ofNode (.float x)).display
  | some (.bool b) => pure (Value.ofNode (.bool b)).display
  | some node => Run.fail ⟨.rootNotText (Value.ofNode node).kind, none⟩

/-- The variables, none if the section is missing or null. -/
def compileDeclarations (entries : List (Node × Node)) : Run Declarations :=
  match (section? "variables" entries).map Node.untag with
  | none | some .null => pure []
  | some (.map declared) => pure (declared.map fun (key, node) => (key.keyName, .ofNode node))
  | some node => Run.fail ⟨.variablesNotMapping (Value.ofNode node).kind, none⟩

/-- The elements; the section may be null but not missing. -/
def compileElements (mode : Mode) (entries : List (Node × Node)) : Run Content :=
  match (section? "elements" entries).map Node.untag with
  | none => Run.fail ⟨.missingElements, none⟩
  | some .null => pure []
  | some (.map elements) => compileContent mode "" elements
  | some node => Run.fail ⟨.elementsNotMapping (Value.ofNode node).kind, none⟩

/-- Compiles a document. The variables are evaluated last, without data. -/
def compile (mode : Mode) (document : Node) : Run Template :=
  match document.untag with
  | .map entries => do
    let root ← compileRoot entries
    checkName mode root root
    let declarations ← compileDeclarations entries
    let elements ← compileElements mode entries
    let globals ← Variables.extend mode .empty declarations
    Run.emit (.compiled root elements.length declarations.length)
    pure { root, declarations, globals, elements }
  | node => Run.fail ⟨.templateNotMapping (Value.ofNode node).kind, none⟩

end Template

end XmlTemplate
