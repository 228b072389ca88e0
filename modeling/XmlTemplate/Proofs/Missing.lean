import XmlTemplate.Proofs.Term

/-!
# What an expression misses

Which degradations an expression has for given variables and data, told from its text: there is one
way for each kind of degradation. A text has that of each of its unknown variables, and those of the
paths at which its term asks the data. A call has those of its arguments, and one of its own if they
are too few or too many; and what looks like a call of a builtin function and is none has only its
own.

No run is needed to say so. The lenient evaluation passes over these degradations and over no
others (`Value.degraded_mem_evaluate_iff`), which is shown of each function on the way there.
-/

namespace XmlTemplate

open Placeholder (split variableOpening)

/-! ## The ways to degrade -/

/-- The part of a text degrades: it is a path that leads to nothing, or one that leads to a list or
a map. -/
inductive Part.Degrades (data : Value) : Part → Degradation → Prop where
  | unresolved {path : List Char} : data.lookup? path = none →
      Degrades data (.path path) (.unresolvedPath (String.ofList path))
  | unformattable {path : List Char} {value : Value} : data.lookup? path = some value →
      value.kind = .list ∨ value.kind = .map →
      Degrades data (.path path) (.unformattablePath (String.ofList path) value.kind)

/-- Among the pieces is the placeholder of a variable that is unknown. -/
inductive Placeholder.Degrades (table : Variables) (pieces : List Placeholder.Piece) :
    Degradation → Prop where
  | unknown {name : List Char} : .placeholder name ∈ pieces →
      table.get? (String.ofList name) = none →
      Degrades table pieces (.unknownVariable (String.ofList name))

/-- The expression degrades. -/
inductive Expression.Degrades (table : Variables) (data : Value) :
    Expression → Degradation → Prop where
  | variable {text : List Char} {degradation : Degradation} :
      Placeholder.Degrades table (split variableOpening text) degradation →
      Degrades table data (.text text) degradation
  | part {text : List Char} {part : Part} {degradation : Degradation} :
      part ∈ Part.ofPieces table [] (split variableOpening text) →
      part.Degrades data degradation → Degrades table data (.text text) degradation
  | argument {function : Builtin} {arguments : List Expression} {argument : Expression}
      {degradation : Degradation} : argument ∈ arguments →
      Degrades table data argument degradation →
      Degrades table data (.call function arguments) degradation
  | argumentCount {function : Builtin} {arguments : List Expression} :
      arguments.length ≠ function.arity →
      Degrades table data (.call function arguments)
        (.argumentCount function.name function.arity arguments.length)
  | unknown (function : List Char) :
      Degrades table data (.unknown function) (.unknownFunction (String.ofList function))
  | malformed (body : List Char) :
      Degrades table data (.malformed body) (.malformedCall (String.ofList body))

/-- What stands for an expression degrades; only a text can. -/
def Value.Degrades (expression : Value) (table : Variables) (data : Value)
    (degradation : Degradation) : Prop :=
  match expression with
  | .string s => (Expression.parse s.toList).Degrades table data degradation
  | _ => False

/-! ## Evaluation passes over these -/

section Evaluation

variable {table : Variables} {data : Value} {degradation : Degradation}

theorem degraded_mem_degrade_iff {other : Degradation} :
    .degraded degradation none ∈ (Run.degrade .lenient other).events ↔ degradation = other := by
  simp [Run.degrade, Run.emit]

theorem degraded_mem_dataText_iff {path : List Char} :
    .degraded degradation none ∈ (dataText .lenient data path).events ↔
      (Part.path path).Degrades data degradation := by
  rw [dataText]
  constructor
  · intro member
    cases found : data.lookup? path with
    | none =>
        rw [found] at member
        cases List.mem_singleton.mp member
        exact .unresolved found
    | some value =>
        rw [found] at member
        dsimp only at member
        split at member
        case isTrue container =>
          cases List.mem_singleton.mp member
          exact .unformattable found container
        case isFalse => exact absurd member List.not_mem_nil
  · rintro (absent | ⟨leads, container⟩)
    · rw [absent]
      exact List.mem_singleton_self _
    · rw [leads]
      dsimp only
      rw [if_pos container]
      exact List.mem_singleton_self _

theorem Part.not_degrades_literal {text : List Char} :
    ¬(Part.literal text).Degrades data degradation := by
  intro h
  cases h

theorem degraded_mem_fillPieces_iff {pieces : List Placeholder.Piece} :
    .degraded degradation none ∈ (fillPieces .lenient data pieces).events ↔
      ∃ part ∈ pieces.map Part.ofPiece, part.Degrades data degradation := by
  induction pieces with
  | nil => simp [fillPieces]
  | cons piece rest ih =>
      simp only [List.map_cons, List.mem_cons, exists_eq_or_imp, ← ih]
      cases piece with
      | char c =>
          rw [fillPieces, Run.mem_events_bind_of_ok (result_fillPieces data rest)]
          simp [Part.ofPiece, Part.not_degrades_literal]
      | placeholder body =>
          rw [fillPieces, Run.mem_events_bind_of_ok (result_dataText data _),
            Run.mem_events_bind_of_ok (result_fillPieces data rest), degraded_mem_dataText_iff]
          simp [Part.ofPiece]

theorem degraded_mem_substituteData_iff {text : List Char} :
    .degraded degradation none ∈ (substituteData .lenient data text).events ↔
      ∃ part ∈ Part.ofText text, part.Degrades data degradation :=
  degraded_mem_fillPieces_iff

theorem Placeholder.degrades_char_iff {c : Char} {rest : List Placeholder.Piece} :
    Placeholder.Degrades table (.char c :: rest) degradation ↔
      Placeholder.Degrades table rest degradation := by
  constructor
  · rintro ⟨member, absent⟩
    exact .unknown (by simpa using member) absent
  · rintro ⟨member, absent⟩
    exact .unknown (List.mem_cons_of_mem _ member) absent

theorem Placeholder.degrades_placeholder_iff {name : List Char} {rest : List Placeholder.Piece} :
    Placeholder.Degrades table (.placeholder name :: rest) degradation ↔
      (table.get? (String.ofList name) = none
        ∧ degradation = .unknownVariable (String.ofList name)) ∨
      Placeholder.Degrades table rest degradation := by
  constructor
  · rintro ⟨member, absent⟩
    rcases List.mem_cons.mp member with same | member
    · cases same
      exact .inl ⟨absent, rfl⟩
    · exact .inr (.unknown member absent)
  · rintro (⟨absent, rfl⟩ | ⟨member, absent⟩)
    · exact .unknown List.mem_cons_self absent
    · exact .unknown (List.mem_cons_of_mem _ member) absent

/-- In two rounds as in one, what degrades are the unknown variables and the paths of the term. -/
theorem degraded_mem_substitutePieces_iff {waiting : List Char}
    {pieces : List Placeholder.Piece} :
    .degraded degradation none ∈ (substitutePieces .lenient table data waiting pieces).events ↔
      Placeholder.Degrades table pieces degradation ∨
        ∃ part ∈ Part.ofPieces table waiting pieces, part.Degrades data degradation := by
  induction pieces generalizing waiting with
  | nil =>
      have known : ¬Placeholder.Degrades table [] degradation := by
        rintro ⟨member, _⟩
        exact absurd member List.not_mem_nil
      rw [substitutePieces, degraded_mem_substituteData_iff, Part.ofPieces, or_iff_right known]
  | cons piece rest ih =>
      cases piece with
      | char c => rw [substitutePieces, ih, Part.ofPieces, Placeholder.degrades_char_iff]
      | placeholder name =>
          rw [substitutePieces, Part.ofPieces, Placeholder.degrades_placeholder_iff]
          cases found : table.get? (String.ofList name) with
          | some value => simp [ih]
          | none =>
              -- the placeholder itself stays as it is written, which is a part without degradations
              have parts : (∃ part ∈ Part.ofText waiting.reverse
                    ++ .literal (Placeholder.written variableOpening name)
                    :: Part.ofPieces table [] rest, part.Degrades data degradation) ↔
                  (∃ part ∈ Part.ofText waiting.reverse, part.Degrades data degradation) ∨
                    ∃ part ∈ Part.ofPieces table [] rest, part.Degrades data degradation := by
                simp [or_and_right, exists_or, Part.not_degrades_literal]
              dsimp only
              rw [Run.mem_events_bind_of_ok rfl,
                Run.mem_events_bind_of_ok (result_substituteData data _),
                Run.mem_events_bind_of_ok (result_substitutePieces table data _ _), ih,
                degraded_mem_substituteData_iff, degraded_mem_degrade_iff, parts, or_or_or_comm]
              simp [or_assoc]

/-- The text degrades at its unknown variables and at the paths of its term. -/
theorem degraded_mem_substitute_iff {text : List Char} :
    .degraded degradation none ∈ (substitute .lenient table data text).events ↔
      (Expression.text text).Degrades table data degradation := by
  rw [substitute, degraded_mem_substitutePieces_iff]
  constructor
  · rintro (unknown | ⟨part, member, degrades⟩)
    · exact .variable unknown
    · exact .part member degrades
  · rintro (unknown | ⟨member, degrades⟩)
    · exact .inl unknown
    · exact .inr ⟨_, member, degrades⟩

namespace Expression

theorem length_values (table : Variables) (data : Value) (expressions : List Expression) :
    (Term.values data (Term.ofExpressions table expressions)).length = expressions.length := by
  induction expressions with
  | nil => rfl
  | cons expression rest ih =>
      rw [Term.ofExpressions, Term.values, List.length_cons, List.length_cons, ih]

theorem degrades_call_iff {function : Builtin} {arguments : List Expression} :
    (call function arguments).Degrades table data degradation ↔
      (∃ argument ∈ arguments, argument.Degrades table data degradation) ∨
      (arguments.length ≠ function.arity
        ∧ degradation = .argumentCount function.name function.arity arguments.length) := by
  constructor
  · intro h
    cases h with
    | argument member degrades => exact .inl ⟨_, member, degrades⟩
    | argumentCount wrong => exact .inr ⟨wrong, rfl⟩
  · rintro (⟨argument, member, degrades⟩ | ⟨wrong, rfl⟩)
    · exact .argument member degrades
    · exact .argumentCount wrong

mutual

theorem degraded_mem_evaluate_iff : ∀ {expression : Expression},
    .degraded degradation none ∈ (expression.evaluate .lenient table data).events ↔
      expression.Degrades table data degradation
  | .text s => by
      rw [evaluate, Run.mem_events_bind_of_ok (result_substitute table data s),
        degraded_mem_substitute_iff]
      simp
  | .call function arguments => by
      -- every argument has a value in lenient mode, so counting the values counts the arguments
      rw [evaluate, Run.mem_events_bind_of_ok (result_evaluateAll table data arguments),
        degraded_mem_evaluateAll_iff, degrades_call_iff, length_values]
      dsimp only
      refine or_congr_right ?_
      split
      case isTrue wrong =>
        rw [Run.mem_events_bind_of_ok rfl, degraded_mem_degrade_iff]
        simp [wrong]
      case isFalse right => exact iff_of_false List.not_mem_nil fun h => right h.1
  | .unknown function => by
      constructor
      · intro member
        cases List.mem_singleton.mp member
        exact .unknown function
      · intro h
        cases h
        exact List.mem_singleton_self _
  | .malformed body => by
      constructor
      · intro member
        cases List.mem_singleton.mp member
        exact .malformed body
      · intro h
        cases h
        exact List.mem_singleton_self _

theorem degraded_mem_evaluateAll_iff : ∀ {expressions : List Expression},
    .degraded degradation none ∈ (evaluateAll .lenient table data expressions).events ↔
      ∃ expression ∈ expressions, expression.Degrades table data degradation
  | [] => by simp [evaluateAll]
  | expression :: rest => by
      rw [evaluateAll, Run.mem_events_bind_of_ok (result_evaluate table data expression),
        Run.mem_events_bind_of_ok (result_evaluateAll table data rest), degraded_mem_evaluate_iff,
        degraded_mem_evaluateAll_iff]
      simp

end

end Expression

/-- **The lenient evaluation passes over what the text misses, and over nothing else.** -/
theorem Value.degraded_mem_evaluate_iff {expression : Value} :
    .degraded degradation none ∈ (expression.evaluate .lenient table data).events ↔
      expression.Degrades table data degradation := by
  cases expression with
  | string s => exact Expression.degraded_mem_evaluate_iff
  | null | bool | int | float | list | map =>
      exact iff_of_false List.not_mem_nil id

end Evaluation

end XmlTemplate
