import XmlTemplate.Template.Compile
import XmlTemplate.Render
import XmlTemplate.Stream
import XmlTemplate.Yaml.Document
import XmlTemplate.Text.Outline
import XmlTemplate.Text.Quoted

/-!
# Engines

An engine has settings and a store of named templates. The settings in force when a template is
added decide how it is compiled, those in force when it is rendered decide how it is rendered.
-/

namespace XmlTemplate

/-- Where a template comes from. -/
inductive Source where
  /-- A YAML text. -/
  | text (s : String)
  /-- A document that has been read already. -/
  | document (node : Yaml.Node)

/-- The document of a source, with its merge keys applied. -/
def Source.read? : Source → Option Yaml.Node
  | .text s => Yaml.read? s
  | .document node => node.merged?

/-- Settings and named templates. -/
structure Engine where
  mode : Mode := .lenient
  maxDepth : Option Nat := none
  templates : Dictionary Template := .empty

namespace Engine

/-- Compiles a source under the settings of the engine, without storing the template. -/
def compile (engine : Engine) (source : Source) : Run Template :=
  match source.read? with
  | none => Run.fail ⟨.unreadableTemplate, none⟩
  | some document => Template.compile engine.mode document

/-- Compiles the contents of a file; there are none if it does not exist. -/
def compileFile (engine : Engine) (path : String) (contents : Option ByteArray) : Run Template :=
  match contents with
  | none => Run.fail ⟨.unreadableFile path "No such file or directory (os error 2)", none⟩
  | some bytes =>
    match String.fromUTF8? bytes with
    | none => Run.fail ⟨.unreadableFile path "stream did not contain valid UTF-8", none⟩
    | some s => engine.compile (.text s)

/-- Renders a template under the settings of the engine. A depth limit in the request takes the
place of the engine's. -/
def render (engine : Engine) (template : Template) (request : Request) : Run Unit :=
  template.render engine.mode { request with maxDepth := request.maxDepth.or engine.maxDepth }

/-- Compiles a source and stores the template. -/
def add (engine : Engine) (name : String) (source : Source) : Run Engine := do
  let template ← engine.compile source
  pure { engine with templates := engine.templates.put name template }

/-- The stored template with the name. -/
def get? (engine : Engine) (name : String) : Option Template :=
  engine.templates.get? name

/-- Removes the template with the name from the store. -/
def remove (engine : Engine) (name : String) : Engine :=
  { engine with templates := engine.templates.erase name }

/-! ## Operations -/

/-- One thing asked of an engine. -/
inductive Operation where
  | setStrict (on : Bool)
  | setMaxDepth (limit : Nat)
  | add (name : String) (source : Source)
  | remove (name : String)
  | get (name : String)
  /-- Compiles a source and renders the template at once. -/
  | compile (source : Source) (request : Request)
  | compileFile (path : String) (contents : Option ByteArray) (request : Request)
  /-- Renders a stored template. -/
  | render (name : String) (request : Request)

/-- What an engine answers. -/
inductive Answer where
  | done
  | failed (e : Error)
  | removed (existed : Bool)
  | found (template : Option Template)
  | rendered (run : Run Unit)

/-- Renders the template of a run that succeeded. -/
def renderCompiled (engine : Engine) (compiled : Run Template) (request : Request) :
    Answer × List (Level × String) :=
  match compiled.result with
  | .error e => (.failed e, compiled.notes)
  | .ok template => (.rendered (engine.render template request), compiled.notes)

/-- Carries out an operation: the engine afterwards, the answer, and what is noted before the answer
is a render. -/
def perform (engine : Engine) : Operation → Engine × Answer × List (Level × String)
  | .setStrict on => ({ engine with mode := if on then .strict else .lenient }, .done, [])
  | .setMaxDepth limit => ({ engine with maxDepth := some limit }, .done, [])
  | .add name source =>
    let run := engine.add name source
    match run.result with
    | .ok changed => (changed, .done, run.notes)
    | .error e => (engine, .failed e, run.notes)
  | .remove name => (engine.remove name, .removed (engine.get? name).isSome, [])
  | .get name => (engine, .found (engine.get? name), [])
  | .compile source request => (engine, engine.renderCompiled (engine.compile source) request)
  | .compileFile path contents request =>
    (engine, engine.renderCompiled (engine.compileFile path contents) request)
  | .render name request =>
    match engine.get? name with
    | none => (engine, .found none, [])
    | some template => (engine, .rendered (engine.render template request), [])

/-! ## Outlines -/

open Text (Outline)

/-- The outline of a text: its quoted literal. -/
def textOutline (s : String) : Outline :=
  .atom (Text.quoted s)

/-- The settings and the names of the stored templates. -/
def outline (engine : Engine) : Outline :=
  .record "Engine" [
    ("strict", .atom (if engine.mode = .strict then "true" else "false")),
    ("max_depth", match engine.maxDepth with
      | none => .atom "None"
      | some limit => .call "Some" [.atom (toString limit)]),
    ("templates", .list (engine.templates.keys.map textOutline))] false

end Engine

/-- The name of the root element, under the given heading. -/
def Template.outline (heading : String) (template : Template) : Text.Outline :=
  .record heading [("root", Engine.textOutline template.root)] true

end XmlTemplate
