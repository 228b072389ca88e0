import XmlTemplate.Proofs.Strict

/-!
# What an expression looks up

The names of the variables that an expression asks the table for can be read off its text: they are
those of the variable placeholders, also in the arguments of calls. The text that comes in for a
variable is not searched for further variables. So an evaluation depends on the table only at these
names (`Value.evaluate_congr`), and strict mode succeeds only if the table has all of them
(`Value.lookups_known`).
-/

namespace XmlTemplate

/-- The names in the placeholders among the pieces. -/
def Placeholder.names : List Placeholder.Piece → List String
  | [] => []
  | .char _ :: rest => names rest
  | .placeholder body :: rest => String.ofList body :: names rest

namespace Expression

mutual

/-- The names of the variables that the evaluation of the expression looks up, in order. -/
def lookups : Expression → List String
  | .text s => Placeholder.names (Placeholder.split Placeholder.variableOpening s)
  | .call _ arguments => lookupsAll arguments
  | .unknown _ => []
  | .malformed _ => []

/-- The names that the evaluation of all the expressions looks up. -/
def lookupsAll : List Expression → List String
  | [] => []
  | expression :: rest => lookups expression ++ lookupsAll rest

end

end Expression

/-- The names that the evaluation of what stands for an expression looks up. -/
def Value.lookups : Value → List String
  | .string s => (Expression.parse s.toList).lookups
  | _ => []

/-- The tables have the same values under the names. -/
def Variables.AgreeOn (names : List String) (table table' : Variables) : Prop :=
  ∀ name ∈ names, table.get? name = table'.get? name

theorem Variables.AgreeOn.mono {names fewer : List String} {table table' : Variables}
    (h : AgreeOn names table table') (subset : ∀ name ∈ fewer, name ∈ names) :
    AgreeOn fewer table table' := by
  intro name member
  exact h name (subset name member)

/-! ## Only these names matter -/

section Congruence

variable (mode : Mode) (data : Value) {table table' : Variables}

theorem substitutePieces_congr {pieces : List Placeholder.Piece}
    (h : Variables.AgreeOn (Placeholder.names pieces) table table') (waiting : List Char) :
    substitutePieces mode table data waiting pieces
      = substitutePieces mode table' data waiting pieces := by
  induction pieces generalizing waiting with
  | nil => rfl
  | cons piece rest ih =>
      cases piece with
      | char c => exact ih h (c :: waiting)
      | placeholder body =>
          have ih := ih (h.mono fun _ member => List.mem_cons_of_mem _ member)
          rw [substitutePieces, substitutePieces, h _ List.mem_cons_self]
          cases table'.get? (String.ofList body) with
          | some value => exact ih _
          | none =>
              dsimp only
              rw [ih []]

mutual

theorem Expression.evaluate_congr : ∀ {expression : Expression},
    Variables.AgreeOn expression.lookups table table' →
    expression.evaluate mode table data = expression.evaluate mode table' data
  | .text s, h => by rw [evaluate, evaluate, substitute, substitute, substitutePieces_congr _ _ h]
  | .call function arguments, h => by
      rw [evaluate, evaluate, Expression.evaluateAll_congr h]
  | .unknown _, _ => rfl
  | .malformed _, _ => rfl

theorem Expression.evaluateAll_congr : ∀ {expressions : List Expression},
    Variables.AgreeOn (lookupsAll expressions) table table' →
    evaluateAll mode table data expressions = evaluateAll mode table' data expressions
  | [], _ => rfl
  | expression :: rest, h => by
      rw [evaluateAll, evaluateAll,
        Expression.evaluate_congr (h.mono fun _ member => List.mem_append_left _ member),
        Expression.evaluateAll_congr (h.mono fun _ member => List.mem_append_right _ member)]

end

/-- **An evaluation depends on the table only at the names that it looks up.** -/
theorem Value.evaluate_congr {expression : Value}
    (h : Variables.AgreeOn expression.lookups table table') :
    expression.evaluate mode table data = expression.evaluate mode table' data := by
  cases expression with
  | string s => exact Expression.evaluate_congr mode data h
  | null | bool | int | float | list | map => rfl

end Congruence

/-! ## Strict mode needs all of them -/

section Known

variable {table : Variables} {data : Value}

/-- In strict mode nothing follows a degradation. -/
theorem degrade_strict_ne_ok {α : Type} {degradation : Degradation} {next : Unit → Run α} {a : α} :
    (Run.degrade .strict degradation >>= next).result ≠ .ok a := by
  rw [Run.bind_of_error rfl]
  simp

theorem substitutePieces_known {waiting : List Char} {pieces : List Placeholder.Piece}
    {text : List Char}
    (h : (substitutePieces .strict table data waiting pieces).result = .ok text) :
    ∀ name ∈ Placeholder.names pieces, table.get? name ≠ none := by
  induction pieces generalizing waiting text with
  | nil =>
      intro name member
      exact absurd member (by simp [Placeholder.names])
  | cons piece rest ih =>
      cases piece with
      | char c => exact ih h
      | placeholder body =>
          rw [substitutePieces] at h
          cases found : table.get? (String.ofList body) with
          | none =>
              rw [found] at h
              exact absurd h degrade_strict_ne_ok
          | some value =>
              rw [found] at h
              intro name member
              rcases List.mem_cons.mp member with rfl | member
              · rw [found]
                simp
              · exact ih h name member

mutual

theorem Expression.lookups_known : ∀ {expression : Expression} {value : Value},
    (expression.evaluate .strict table data).result = .ok value →
    ∀ name ∈ expression.lookups, table.get? name ≠ none
  | .text s, value, h => by
      rw [evaluate] at h
      obtain ⟨text, substituted, _⟩ := Run.result_bind_eq_ok h
      exact substitutePieces_known substituted
  | .call function arguments, value, h => by
      rw [evaluate] at h
      obtain ⟨values, evaluated, _⟩ := Run.result_bind_eq_ok h
      exact Expression.lookupsAll_known evaluated
  | .unknown _, _, h => absurd h degrade_strict_ne_ok
  | .malformed _, _, h => absurd h degrade_strict_ne_ok

theorem Expression.lookupsAll_known : ∀ {expressions : List Expression} {values : List Value},
    (evaluateAll .strict table data expressions).result = .ok values →
    ∀ name ∈ lookupsAll expressions, table.get? name ≠ none
  | [], _, _ => by
      intro name member
      exact absurd member (by simp [lookupsAll])
  | expression :: rest, values, h => by
      rw [evaluateAll] at h
      obtain ⟨value, first, h⟩ := Run.result_bind_eq_ok h
      obtain ⟨values', more, _⟩ := Run.result_bind_eq_ok h
      intro name member
      rcases List.mem_append.mp member with member | member
      · exact Expression.lookups_known first name member
      · exact Expression.lookupsAll_known more name member

end

/-- A strict evaluation that succeeds finds every name that it looks up. -/
theorem Value.lookups_known {expression value : Value}
    (h : (expression.evaluate .strict table data).result = .ok value) :
    ∀ name ∈ expression.lookups, table.get? name ≠ none := by
  cases expression with
  | string s => exact Expression.lookups_known h
  | null | bool | int | float | list | map =>
      intro name member
      exact absurd member (by simp [lookups])

end Known

/-! ## The mode decides only about failing -/

/-- A strict evaluation that succeeds gives what the lenient one gives. -/
theorem Value.result_lenient_of_ok {mode : Mode} {table : Variables} {data expression value : Value}
    (h : (expression.evaluate mode table data).result = .ok value) :
    (expression.evaluate .lenient table data).result = .ok value := by
  cases mode with
  | lenient => exact h
  | strict =>
      rw [Value.evaluate_strict] at h
      rwa [Run.strictly, Run.stopAt_eq_self h] at h

/-- Two evaluations under one table that succeed give the same value, whatever their modes. -/
theorem Value.evaluate_unique {mode mode' : Mode} {table : Variables}
    {data expression value value' : Value}
    (h : (expression.evaluate mode table data).result = .ok value)
    (h' : (expression.evaluate mode' table data).result = .ok value') : value = value' := by
  have same := (result_lenient_of_ok h).symm.trans (result_lenient_of_ok h')
  cases same
  rfl

end XmlTemplate
