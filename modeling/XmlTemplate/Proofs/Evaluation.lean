import XmlTemplate.Render
import XmlTemplate.Proofs.Run

/-!
# Evaluation does nothing but degrade

Evaluating an expression writes nothing and enters nothing: whatever happens besides its result is a
degradation, which gets its place from the element that the expression belongs to. The functions
that evaluate are gone through once, for `Run.Degrading`; what is true of all runs of that kind is
then true of every evaluation.

Besides what is evaluated and what is written, a render only enters levels of elements, of which
`Scope.enter_cases` says all there is to say.
-/

namespace XmlTemplate

/-- The run is put together from degradations, taken as the mode takes them. -/
inductive Run.Degrading (mode : Mode) : {α : Type} → Run α → Prop where
  | pure {α : Type} (a : α) : Degrading mode (pure a : Run α)
  | degrade (degradation : Degradation) : Degrading mode (Run.degrade mode degradation)
  | bind {α β : Type} {run : Run α} {next : α → Run β} : Degrading mode run →
      (∀ a, Degrading mode (next a)) → Degrading mode (run >>= next)

theorem Run.Degrading.unplaced {mode : Mode} {α : Type} {run : Run α} (h : run.Degrading mode) :
    run.Unplaced := by
  induction h with
  | pure a => exact Run.unplaced_pure a
  | degrade degradation => exact Run.unplaced_degrade mode degradation
  | bind _ _ first next => exact first.bind next

section Expression

variable (mode : Mode) (table : Variables) (data : Value)

theorem dataText_degrading (path : List Char) : (dataText mode data path).Degrading mode := by
  unfold dataText
  cases data.lookup? path with
  | none => exact (Run.Degrading.degrade _).bind fun _ => .pure _
  | some value =>
      dsimp only
      split
      · exact (Run.Degrading.degrade _).bind fun _ => .pure _
      · exact .pure _

theorem fillPieces_degrading (pieces : List Placeholder.Piece) :
    (fillPieces mode data pieces).Degrading mode := by
  induction pieces with
  | nil => exact .pure _
  | cons piece rest ih =>
      cases piece with
      | char c => exact ih.bind fun _ => .pure _
      | placeholder body =>
          exact (dataText_degrading mode data _).bind fun _ =>
            ih.bind fun _ => .pure _

theorem substitutePieces_degrading (waiting : List Char) (pieces : List Placeholder.Piece) :
    (substitutePieces mode table data waiting pieces).Degrading mode := by
  induction pieces generalizing waiting with
  | nil => exact fillPieces_degrading mode data _
  | cons piece rest ih =>
      cases piece with
      | char c => exact ih (c :: waiting)
      | placeholder body =>
          rw [substitutePieces]
          cases table.get? (String.ofList body) with
          | some value => exact ih _
          | none =>
              exact (Run.Degrading.degrade _).bind fun _ =>
                (fillPieces_degrading mode data _).bind fun _ =>
                  (ih []).bind fun _ => .pure _

mutual

theorem Expression.evaluate_degrading :
    ∀ expression : Expression, (expression.evaluate mode table data).Degrading mode
  | .text s => by
      rw [evaluate]
      exact (substitutePieces_degrading mode table data _ _).bind fun _ => .pure _
  | .call function arguments => by
      rw [evaluate]
      refine (Expression.evaluateAll_degrading arguments).bind fun values => ?_
      split
      · exact (Run.Degrading.degrade _).bind fun _ => .pure _
      · exact .pure _
  | .unknown function => by
      rw [evaluate]
      exact (Run.Degrading.degrade _).bind fun _ => .pure _
  | .malformed body => by
      rw [evaluate]
      exact (Run.Degrading.degrade _).bind fun _ => .pure _

theorem Expression.evaluateAll_degrading :
    ∀ expressions : List Expression, (evaluateAll mode table data expressions).Degrading mode
  | [] => .pure _
  | expression :: rest => by
      rw [evaluateAll]
      exact (Expression.evaluate_degrading expression).bind fun _ =>
        (Expression.evaluateAll_degrading rest).bind fun _ => .pure _

end

theorem Value.evaluate_degrading (expression : Value) :
    (expression.evaluate mode table data).Degrading mode := by
  cases expression with
  | string s => exact Expression.evaluate_degrading mode table data _
  | null | bool | int | float | list | map => exact .pure _

theorem Value.evaluate_unplaced (expression : Value) :
    (expression.evaluate mode table data).Unplaced :=
  (Value.evaluate_degrading mode table data expression).unplaced

end Expression

/-! ## In a render -/

theorem Variables.extend_onlyDegrades (mode : Mode) (table : Variables)
    (declarations : Declarations) : (extend mode table declarations).OnlyDegrades := by
  induction declarations generalizing table with
  | nil => exact Run.onlyDegrades_pure _
  | cons declaration rest ih =>
      obtain ⟨name, expression⟩ := declaration
      exact ((Value.evaluate_unplaced mode table .null expression).locate _).bind fun _ => ih _

namespace Scope

variable (scope : Scope) (path : String)

theorem evaluate_onlyDegrades (data expression : Value) :
    (scope.evaluate path data expression).OnlyDegrades :=
  (Value.evaluate_unplaced scope.mode scope.table data expression).locate path

theorem attributes_onlyDegrades (data : Value) (attributes : List Attribute) :
    (scope.attributes path data attributes).OnlyDegrades := by
  induction attributes with
  | nil => exact Run.onlyDegrades_pure _
  | cons first rest ih =>
      exact (scope.evaluate_onlyDegrades path data first.expression).bind fun _ =>
        ih.bind fun _ => Run.onlyDegrades_pure _

/-- Entering a level fails at once because it is too deep, or it does nothing but say so. -/
theorem enter_cases (depth : Nat) :
    (∃ limit, scope.maxDepth = some limit ∧ limit < depth
      ∧ scope.enter path depth = Run.fail (.located (.depthExceeded limit) path)) ∨
    scope.enter path depth = Run.emit (.entered path depth) := by
  unfold Scope.enter
  split
  · rename_i limit limited
    split
    · exact .inl ⟨limit, limited, ‹_›, rfl⟩
    · exact .inr rfl
  · exact .inr rfl

end Scope

end XmlTemplate
