import XmlTemplate.Proofs.Comparison
import XmlTemplate.Proofs.Stop

/-!
# Strict mode is lenient mode, stopped at the first degradation

Both modes do the same things in the same order, and only a degradation is something that they take
differently. So the strict run is the lenient one, stopped at its first degradation
(`Run.strictly`). This is said of every function on the way from a placeholder to a whole render,
each time from what the functions that it calls do; `Template.render_strictly` is where it ends.
-/

namespace XmlTemplate

/-- The error that an event is in strict mode; only a degradation is one. -/
def Event.refusal? : Event → Option Error
  | .degraded degradation path => some ⟨.degraded degradation, path⟩
  | _ => none

theorem Event.refusal?_locate (path : String) (event : Event) :
    (event.locate path).refusal? = event.refusal?.map (Error.locate path) := by
  cases event <;> rfl

/-- The run up to its first degradation, which is then the error that it ends with. -/
def Run.strictly {α : Type} (run : Run α) : Run α :=
  run.stopAt Event.refusal?

namespace Run

variable {α β : Type}

@[simp]
theorem strictly_pure (a : α) : (pure a : Run α).strictly = pure a :=
  stopAt_pure a

@[simp]
theorem strictly_fail (e : Error) : (fail e : Run α).strictly = fail e :=
  stopAt_fail e

@[simp]
theorem strictly_degrade (degradation : Degradation) :
    (degrade .lenient degradation).strictly = degrade .strict degradation := rfl

@[simp]
theorem strictly_bind (run : Run α) (next : α → Run β) :
    (run >>= next).strictly = run.strictly >>= fun a => (next a).strictly :=
  stopAt_bind run next

@[simp]
theorem strictly_map (f : α → β) (run : Run α) : (f <$> run).strictly = f <$> run.strictly := by
  rw [map_eq_pure_bind, strictly_bind, map_eq_pure_bind]
  rfl

@[simp]
theorem strictly_locate (path : String) (run : Run α) :
    (run.locate path).strictly = run.strictly.locate path :=
  stopAt_locate (Event.refusal?_locate path) run

@[simp]
theorem strictly_ofExcept (result : Except Error α) :
    (ofExcept result).strictly = ofExcept result :=
  stopAt_ofExcept result

@[simp]
theorem strictly_write (markup : Xml.Markup) : (write markup).strictly = write markup :=
  stopAt_emit rfl

@[simp]
theorem strictly_rendering (root : String) (names : Nat) :
    (emit (.rendering root names)).strictly = emit (.rendering root names) :=
  stopAt_emit rfl

end Run

theorem dataText_strict (data : Value) (path : List Char) :
    dataText .strict data path = (dataText .lenient data path).strictly := by
  unfold dataText
  cases data.lookup? path with
  | none => simp
  | some value =>
      dsimp only
      split <;> simp

theorem fillPieces_strict (data : Value) (pieces : List Placeholder.Piece) :
    fillPieces .strict data pieces = (fillPieces .lenient data pieces).strictly := by
  induction pieces with
  | nil => rfl
  | cons piece rest ih =>
      cases piece with
      | char c => simp [fillPieces, ih]
      | placeholder body => simp [fillPieces, ih, dataText_strict]

theorem substitutePieces_strict (table : Variables) (data : Value) (waiting : List Char)
    (pieces : List Placeholder.Piece) :
    substitutePieces .strict table data waiting pieces
      = (substitutePieces .lenient table data waiting pieces).strictly := by
  induction pieces generalizing waiting with
  | nil => exact fillPieces_strict data _
  | cons piece rest ih =>
      cases piece with
      | char c => exact ih (c :: waiting)
      | placeholder body =>
          rw [substitutePieces, substitutePieces]
          cases table.get? (String.ofList body) with
          | some value => exact ih _
          | none => simp [substituteData, fillPieces_strict, ih]

mutual

theorem Expression.evaluate_strict (table : Variables) (data : Value) :
    ∀ expression : Expression, expression.evaluate .strict table data
      = (expression.evaluate .lenient table data).strictly
  | .text s => by simp [evaluate, substitute, substitutePieces_strict]
  | .call function arguments => by
      simp only [evaluate, Expression.evaluateAll_strict table data arguments, Run.strictly_bind]
      congr 1
      funext values
      split <;> simp
  | .unknown function => by simp [evaluate]
  | .malformed body => by simp [evaluate]

theorem Expression.evaluateAll_strict (table : Variables) (data : Value) :
    ∀ expressions : List Expression, evaluateAll .strict table data expressions
      = (evaluateAll .lenient table data expressions).strictly
  | [] => rfl
  | expression :: rest => by
      simp [evaluateAll, Expression.evaluate_strict table data expression,
        Expression.evaluateAll_strict table data rest]

end

theorem Value.evaluate_strict (table : Variables) (data expression : Value) :
    expression.evaluate .strict table data
      = (expression.evaluate .lenient table data).strictly := by
  cases expression with
  | string s => exact Expression.evaluate_strict table data _
  | null | bool | int | float | list | map => rfl

theorem Variables.extend_strict (table : Variables) (declarations : Declarations) :
    extend .strict table declarations = (extend .lenient table declarations).strictly := by
  induction declarations generalizing table with
  | nil => rfl
  | cons declaration rest ih =>
      obtain ⟨name, expression⟩ := declaration
      simp [extend, ih, Value.evaluate_strict]

section Scope

variable (table : Variables) (limit : Option Nat)

theorem Scope.enter_strict (path : String) (depth : Nat) :
    Scope.enter ⟨.strict, table, limit⟩ path depth
      = (Scope.enter ⟨.lenient, table, limit⟩ path depth).strictly := by
  cases limit with
  | none => rfl
  | some limit =>
      dsimp only [Scope.enter]
      split <;> rfl

theorem Scope.evaluate_strict (path : String) (data expression : Value) :
    Scope.evaluate ⟨.strict, table, limit⟩ path data expression
      = (Scope.evaluate ⟨.lenient, table, limit⟩ path data expression).strictly := by
  simp [Scope.evaluate, Value.evaluate_strict]

theorem Scope.attributes_strict (path : String) (data : Value) (attributes : List Attribute) :
    Scope.attributes ⟨.strict, table, limit⟩ path data attributes
      = (Scope.attributes ⟨.lenient, table, limit⟩ path data attributes).strictly := by
  induction attributes with
  | nil => rfl
  | cons first rest ih =>
      obtain ⟨name, expression⟩ := first
      simp [Scope.attributes, Scope.evaluate_strict, ih]

theorem writeElement_strictly (name : String) (attributes : List Xml.Attribute)
    (inside : Run Unit) :
    (writeElement name attributes inside).strictly
      = writeElement name attributes inside.strictly := by
  simp [writeElement]

theorem comparison_strict :
    Comparison ⟨.lenient, table, limit⟩ ⟨.strict, table, limit⟩ (· = ·)
      fun run run' => run' = run.strictly where
  nothing := rfl
  seq := by
    rintro run _ next _ rfl rfl
    exact (Run.strictly_bind run fun _ => next).symm
  write markup := (Run.strictly_write markup).symm
  enter := Scope.enter_strict table limit
  leaf name path depth expression := by
    rintro data _ rfl
    simp [renderElement, Scope.evaluate_strict, writeElement_strictly]
  attributed name path depth expression attributes := by
    rintro data _ rfl
    simp [renderElement, Scope.evaluate_strict, Scope.attributes_strict, writeElement_strictly]
  sequence name path depth entries := by
    rintro data _ rfl
    rcases lists_or_none data name with lists | noList
    · exact .inl lists
    · refine .inr ?_
      rw [renderElement_of_no_list noList, renderElement_of_no_list noList, Run.strictly_locate,
        Run.strictly_degrade]

end Scope

theorem Template.render_strictly (template : Template) (request : Request) :
    template.render .strict request = (template.render .lenient request).strictly := by
  have body : ∀ table data, template.body ⟨.strict, table, request.maxDepth⟩ data
      = (template.body ⟨.lenient, table, request.maxDepth⟩ data).strictly :=
    fun table data => (comparison_strict table request.maxDepth).body template rfl
  simp [render_eq, table, Variables.extend_strict, body]

end XmlTemplate
