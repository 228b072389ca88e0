import XmlTemplate.Path
import XmlTemplate.Value

/-!
# Degradations and errors

A degradation is something that an expression or a sequence asks for and the data does not give. It
is passed over in lenient mode and an error in strict mode. The other causes of errors stop a
compilation or a render in either mode.

All wording is in this module: `Degradation.message`, `Degradation.note?` and `Cause.message`.
-/

namespace XmlTemplate

/-- Something that is passed over in lenient mode and an error in strict mode. -/
inductive Degradation where
  /-- A placeholder names a variable that is not in the table. -/
  | unknownVariable (name : String)
  /-- A placeholder has a path that leads to nothing. -/
  | unresolvedPath (path : String)
  /-- A placeholder has a path that leads to a list or a map. -/
  | unformattablePath (path : String) (found : Kind)
  /-- An expression starts like a call and is none. -/
  | malformedCall (body : String)
  /-- A call names no builtin function. -/
  | unknownFunction (name : String)
  /-- A call has too few or too many arguments. -/
  | argumentCount (function : String) (expected found : Nat)
  /-- The key of a sequence element does not lead to a list. -/
  | sequenceWithoutList (element : String) (found : Option Kind)
deriving DecidableEq

/-- The message of the error that the degradation is in strict mode. -/
def Degradation.message : Degradation → String
  | .unknownVariable name => s!"unknown variable `{name}`"
  | .unresolvedPath path => s!"unresolved data path `{path}`"
  | .unformattablePath path found =>
    s!"data path `{path}` evaluated to unformattable type {found.word}"
  | .malformedCall body => s!"malformed function call `={body}`"
  | .unknownFunction name => s!"unknown function `{name}`"
  | .argumentCount function expected found =>
    s!"function `{function}` expects {expected} arguments, found {found}"
  | .sequenceWithoutList _ found =>
    "expected list for sequence, found " ++ (found.map Kind.word).getD "nothing"

/-- What is noted in lenient mode, if anything. -/
def Degradation.note? : Degradation → Option String
  | .unknownVariable name => some s!"leaving unknown variable `{name}` unresolved"
  | .unresolvedPath path => some s!"data path `{path}` not found, substituting nothing"
  | .malformedCall body => some s!"`={body}` is not a function call"
  | .unknownFunction name => some s!"unknown function `{name}`"
  | .sequenceWithoutList element _ =>
    some s!"skipping sequence `{element}`, data is not a list"
  | .unformattablePath _ _ => none
  | .argumentCount _ _ _ => none

/-- Why a compilation or a render fails. -/
inductive Cause where
  | degraded (degradation : Degradation)
  /-- The text of the template is no YAML document. -/
  | unreadableTemplate
  | templateNotMapping (found : Kind)
  | missingRoot
  | rootNotText (found : Kind)
  | variablesNotMapping (found : Kind)
  | missingElements
  | elementsNotMapping (found : Kind)
  | entryNotMapping (found : Kind)
  | invalidName (name : String)
  | depthExceeded (limit : Nat)
  /-- The data could not be converted. -/
  | unconvertibleData (reason : String)
  | unreadableFile (path reason : String)
  /-- The output could not be written. -/
  | writeFailed (reason : String)
  | formatFailed
  /-- A failure with a message of its own. -/
  | custom (text : String)
deriving DecidableEq

/-- The message of an error, without its place. -/
def Cause.message : Cause → String
  | .degraded degradation => degradation.message
  | .unreadableTemplate => "failed to parse template"
  | .templateNotMapping found => s!"expected template to be a mapping, found {found.word}"
  | .missingRoot => "template is missing `root`"
  | .rootNotText found => s!"expected `root` to be a string, found {found.word}"
  | .variablesNotMapping found => s!"expected `variables` to be a mapping, found {found.word}"
  | .missingElements => "template is missing `elements`"
  | .elementsNotMapping found => s!"expected `elements` to be a mapping, found {found.word}"
  | .entryNotMapping found => s!"expected sequence entry to be a mapping, found {found.word}"
  | .invalidName name => s!"invalid XML name `{name}`"
  | .depthExceeded limit => s!"reached maximum element depth ({limit})"
  | .unconvertibleData reason => s!"failed to serialize data: {reason}"
  | .unreadableFile path _ => s!"failed to read `{path}`"
  | .writeFailed _ => "io error"
  | .formatFailed => "format error"
  | .custom text => text

/-- What lies behind the error, if it comes from outside. -/
def Cause.origin? : Cause → Option String
  | .unreadableTemplate => some "yaml"
  | .unreadableFile _ reason => some reason
  | .writeFailed reason => some reason
  | .formatFailed => some "an error occurred when formatting an argument"
  | _ => none

/-- An error: its cause and the dotted path of the element where it arose, if known. -/
structure Error where
  cause : Cause
  path : Option String := none
deriving DecidableEq

namespace Error

/-- The error at the given path. -/
def located (cause : Cause) (path : String) : Error :=
  ⟨cause, Path.place? path⟩

/-- The error with a path, unless a more specific one is already known. -/
def locate (path : String) (e : Error) : Error :=
  { e with path := e.path.or (Path.place? path) }

/-- The message with the path behind it. -/
def display (e : Error) : String :=
  match e.path with
  | none => e.cause.message
  | some path => s!"{e.cause.message} at `{path}`"

/-- The message with the path and the origin behind it. -/
def displayFull (e : Error) : String :=
  match e.cause.origin? with
  | none => e.display
  | some origin => s!"{e.display}: {origin}"

end Error

end XmlTemplate
