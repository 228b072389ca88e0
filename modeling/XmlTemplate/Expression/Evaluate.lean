import XmlTemplate.Expression
import XmlTemplate.Expression.Placeholder
import XmlTemplate.Run

/-!
# Evaluation

What an expression means for given variables and data. Placeholders are replaced in two rounds:
variables first, and in what is then on the page, data. An unknown variable stays as it was written
and takes no part in the second round.
-/

namespace XmlTemplate

/-- Evaluated variables by their names. -/
abbrev Variables := Dictionary Value

/-! ## Placeholders -/

/-- The text that a path into the data contributes. -/
def dataText (mode : Mode) (data : Value) (path : List Char) : Run (List Char) :=
  match data.lookup? path with
  | none => do
    Run.degrade mode (.unresolvedPath (String.ofList path))
    pure []
  | some value => do
    if value.kind = .list ∨ value.kind = .map then
      Run.degrade mode (.unformattablePath (String.ofList path) value.kind)
    pure value.display.toList

/-- Replaces the placeholders for data, from left to right. White space around a path does not
count. -/
def fillPieces (mode : Mode) (data : Value) : List Placeholder.Piece → Run (List Char)
  | [] => pure []
  | .char c :: rest => do
    let rest ← fillPieces mode data rest
    pure (c :: rest)
  | .placeholder body :: rest => do
    let inserted ← dataText mode data (Text.trim body)
    let rest ← fillPieces mode data rest
    pure (inserted ++ rest)

/-- Replaces the placeholders for data in a text. -/
def substituteData (mode : Mode) (data : Value) (text : List Char) : Run (List Char) :=
  fillPieces mode data (Placeholder.split Placeholder.dataOpening text)

/-- Replaces the placeholders for variables, and then those for data. What is before the pieces, in
which the variables are already replaced, waits for the second round until an unknown variable or
the end is reached. It is kept in reverse. -/
def substitutePieces (mode : Mode) (table : Variables) (data : Value) (waiting : List Char) :
    List Placeholder.Piece → Run (List Char)
  | [] => substituteData mode data waiting.reverse
  | .char c :: rest => substitutePieces mode table data (c :: waiting) rest
  | .placeholder body :: rest =>
    match table.get? (String.ofList body) with
    | some value =>
      substitutePieces mode table data (value.display.toList.reverse ++ waiting) rest
    | none => do
      Run.degrade mode (.unknownVariable (String.ofList body))
      -- the placeholder parts the text: in the second round nothing reaches across it
      let front ← substituteData mode data waiting.reverse
      let back ← substitutePieces mode table data [] rest
      pure (front ++ Placeholder.written Placeholder.variableOpening body ++ back)

/-- Replaces all placeholders of a text. -/
def substitute (mode : Mode) (table : Variables) (data : Value) (text : List Char) :
    Run (List Char) :=
  substitutePieces mode table data [] (Placeholder.split Placeholder.variableOpening text)

/-! ## Expressions -/

namespace Expression

mutual

/-- The value of an expression. What is no call of a builtin function has none. -/
def evaluate (mode : Mode) (table : Variables) (data : Value) : Expression → Run Value
  | .text s => do
    let text ← substitute mode table data s
    pure (.string (String.ofList text))
  | .call function arguments => do
    let values ← evaluateAll mode table data arguments
    -- a fault in an argument comes before the wrong number of them
    if values.length ≠ function.arity then
      Run.degrade mode (.argumentCount function.name function.arity values.length)
    pure (function.apply values)
  | .unknown function => do
    Run.degrade mode (.unknownFunction (String.ofList function))
    pure .null
  | .malformed body => do
    Run.degrade mode (.malformedCall (String.ofList body))
    pure .null

/-- The values of the expressions, evaluated in order. -/
def evaluateAll (mode : Mode) (table : Variables) (data : Value) :
    List Expression → Run (List Value)
  | [] => pure []
  | expression :: rest => do
    let value ← evaluate mode table data expression
    let values ← evaluateAll mode table data rest
    pure (value :: values)

end

end Expression

/-- The value of what a template holds in place of an expression: a text is read as one, anything
else stands for itself. -/
def Value.evaluate (expression : Value) (mode : Mode) (table : Variables) (data : Value) :
    Run Value :=
  match expression with
  | .string s => (Expression.parse s.toList).evaluate mode table data
  | value => pure value

end XmlTemplate
