import XmlTemplate.Expression.Evaluate
import XmlTemplate.Proofs.Run

/-!
# The term behind an expression

Data cannot inject template syntax. Once the variables are known, the text of an expression fixes a
term: literal text and paths into the data side by side, and builtin functions applied to terms.
Evaluating the expression is evaluating that term, whatever the data are. So what the data
contribute is never read again: not for placeholders, not for a leading `=`, not for the commas and
brackets of a call.

The term is made in the two rounds in which the text is filled in (`Part.ofPieces` follows
`substitutePieces`), but without data: where the data would be asked, the path stays.
-/

namespace XmlTemplate

/-- A part of a text. -/
inductive Part where
  /-- Text that stands for itself. -/
  | literal (s : List Char)
  /-- The text of what the path leads to in the data. -/
  | path (p : List Char)
deriving DecidableEq

/-- What an expression computes from the data. -/
inductive Term where
  /-- The parts one after the other. -/
  | text (parts : List Part)
  /-- A builtin function of the values of further terms. -/
  | apply (function : Builtin) (arguments : List Term)

/-! ## The meaning of a term -/

/-- The text that a part stands for. All that a path can contribute is the display text of a value;
one that leads nowhere contributes nothing. -/
def Part.render (data : Value) : Part → List Char
  | .literal s => s
  | .path p => ((data.lookup? p).map fun value => value.display.toList).getD []

namespace Term

mutual

/-- The value of a term for given data. -/
def value (data : Value) : Term → Value
  | .text parts => .string (String.ofList (parts.flatMap (Part.render data)))
  | .apply function arguments => function.apply (values data arguments)

/-- The values of the terms, in order. -/
def values (data : Value) : List Term → List Value
  | [] => []
  | term :: rest => value data term :: values data rest

end

/-- A conditional without arguments, which has no value for any data. -/
def inert : Term :=
  .apply .ifThen []

end Term

/-! ## The term of an expression -/

/-- A piece of a text as a part, in the round in which data are inserted. -/
def Part.ofPiece : Placeholder.Piece → Part
  | .char c => .literal [c]
  | .placeholder body => .path (Text.trim body)

/-- The parts of a text in which the variables are already replaced. -/
def Part.ofText (text : List Char) : List Part :=
  (Placeholder.split Placeholder.dataOpening text).map ofPiece

/-- The parts of the pieces, behind a text that waits for the round of the data; that text is kept
in reverse. -/
def Part.ofPieces (table : Variables) (waiting : List Char) : List Placeholder.Piece → List Part
  | [] => ofText waiting.reverse
  | .char c :: rest => ofPieces table (c :: waiting) rest
  | .placeholder body :: rest =>
    match table.get? (String.ofList body) with
    | some value => ofPieces table (value.display.toList.reverse ++ waiting) rest
    | none =>
      ofText waiting.reverse
        ++ .literal (Placeholder.written Placeholder.variableOpening body)
        :: ofPieces table [] rest

namespace Term

mutual

/-- The term of an expression under the given variables. -/
def ofExpression (table : Variables) : Expression → Term
  | .text s => .text (Part.ofPieces table [] (Placeholder.split Placeholder.variableOpening s))
  | .call function arguments => .apply function (ofExpressions table arguments)
  | .unknown _ => inert
  | .malformed _ => inert

/-- The terms of the expressions, in order. -/
def ofExpressions (table : Variables) : List Expression → List Term
  | [] => []
  | expression :: rest => ofExpression table expression :: ofExpressions table rest

end

end Term

/-! ## Evaluation gives the value of the term -/

theorem result_dataText (data : Value) (path : List Char) :
    (dataText .lenient data path).result = .ok (Part.render data (.path path)) := by
  rw [dataText, Part.render]
  cases data.lookup? path with
  | none => rfl
  | some value =>
      dsimp only
      split <;> rfl

theorem result_fillPieces (data : Value) (pieces : List Placeholder.Piece) :
    (fillPieces .lenient data pieces).result
      = .ok ((pieces.map Part.ofPiece).flatMap (Part.render data)) := by
  induction pieces with
  | nil => rfl
  | cons piece rest ih =>
      cases piece with
      | char c =>
          rw [fillPieces, Run.bind_of_ok ih]
          rfl
      | placeholder body =>
          rw [fillPieces, Run.bind_of_ok (result_dataText data _), Run.bind_of_ok ih]
          rfl

theorem result_substituteData (data : Value) (text : List Char) :
    (substituteData .lenient data text).result
      = .ok ((Part.ofText text).flatMap (Part.render data)) :=
  result_fillPieces data _

/-- The two rounds, with the text that waits between them, give the parts of the term. -/
theorem result_substitutePieces (table : Variables) (data : Value) (waiting : List Char)
    (pieces : List Placeholder.Piece) :
    (substitutePieces .lenient table data waiting pieces).result
      = .ok ((Part.ofPieces table waiting pieces).flatMap (Part.render data)) := by
  induction pieces generalizing waiting with
  | nil => exact result_substituteData data _
  | cons piece rest ih =>
      cases piece with
      | char c => exact ih (c :: waiting)
      | placeholder body =>
          rw [substitutePieces, Part.ofPieces]
          cases table.get? (String.ofList body) with
          | some value => exact ih _
          | none =>
              dsimp only
              rw [Run.bind_of_ok rfl, Run.bind_of_ok (result_substituteData data _),
                Run.bind_of_ok (ih [])]
              simp [Part.render]

/-- The text with its placeholders filled in: those of known variables, and those for data. -/
def filled (table : Variables) (data : Value) (s : List Char) : List Char :=
  (Part.ofPieces table [] (Placeholder.split Placeholder.variableOpening s)).flatMap
    (Part.render data)

theorem result_substitute (table : Variables) (data : Value) (s : List Char) :
    (substitute .lenient table data s).result = .ok (filled table data s) :=
  result_substitutePieces table data [] _

mutual

theorem Expression.result_evaluate (table : Variables) (data : Value) :
    ∀ expression : Expression, (expression.evaluate .lenient table data).result
      = .ok ((Term.ofExpression table expression).value data)
  | .text s => by
      rw [evaluate, Run.bind_of_ok (result_substitute table data s)]
      rfl
  | .call function arguments => by
      rw [evaluate, Run.bind_of_ok (Expression.result_evaluateAll table data arguments)]
      dsimp only
      split <;> rfl
  | .unknown _ => rfl
  | .malformed _ => rfl

theorem Expression.result_evaluateAll (table : Variables) (data : Value) :
    ∀ expressions : List Expression, (evaluateAll .lenient table data expressions).result
      = .ok (Term.values data (Term.ofExpressions table expressions))
  | [] => rfl
  | expression :: rest => by
      rw [evaluateAll, Run.bind_of_ok (Expression.result_evaluate table data expression),
        Run.bind_of_ok (Expression.result_evaluateAll table data rest)]
      rfl

end

/--
**Data cannot inject template syntax.**

One term, which the text of the expression and the variables fix, gives the value of the expression
for all data.
-/
theorem exists_term_of_text (table : Variables) (text : String) :
    ∃ term : Term, ∀ data : Value,
      ((Value.string text).evaluate .lenient table data).result = .ok (term.value data) :=
  ⟨Term.ofExpression table (Expression.parse text.toList), fun data =>
    Expression.result_evaluate table data _⟩

end XmlTemplate
