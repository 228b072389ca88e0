import XmlTemplate.Proofs.Comparison

/-!
# What a render can fail with

An evaluation fails only in strict mode, and only with a degradation. What writes elements can
besides fail because they stand too deep, and a whole render because the data could not be
converted. There is nothing else, so in lenient mode every expression has a value
(`Value.exists_evaluate_lenient`) and every table of variables can be built
(`Variables.exists_extend_lenient`).
-/

namespace XmlTemplate

namespace Run

variable {α β : Type} {allowed : Cause → Prop}

/-- If the run fails, it is for one of these causes. -/
def FailsOnly (allowed : Cause → Prop) (run : Run α) : Prop :=
  ∀ e, run.result = .error e → allowed e.cause

theorem failsOnly_of_ok {run : Run α} {a : α} (h : run.result = .ok a) : run.FailsOnly allowed := by
  intro e failed
  rw [h] at failed
  exact absurd failed (by simp)

theorem failsOnly_pure (a : α) : (pure a : Run α).FailsOnly allowed :=
  failsOnly_of_ok rfl

theorem failsOnly_fail {e : Error} (h : allowed e.cause) : (fail e : Run α).FailsOnly allowed := by
  intro e' failed
  cases failed
  exact h

theorem FailsOnly.bind {run : Run α} {next : α → Run β} (h : run.FailsOnly allowed)
    (hnext : ∀ a, (next a).FailsOnly allowed) : (run >>= next).FailsOnly allowed := by
  intro e failed
  cases hr : run.result with
  | ok a =>
      rw [bind_of_ok hr] at failed
      exact hnext a e failed
  | error e' =>
      rw [bind_of_error hr] at failed
      cases failed
      exact h e hr

theorem FailsOnly.locate {run : Run α} (h : run.FailsOnly allowed) (path : String) :
    (run.locate path).FailsOnly allowed := by
  intro e failed
  rw [Run.locate] at failed
  cases hr : run.result with
  | ok a =>
      rw [hr] at failed
      cases failed
  | error e' =>
      rw [hr] at failed
      cases failed
      exact h e' hr

theorem FailsOnly.mono {more : Cause → Prop} {run : Run α} (h : run.FailsOnly allowed)
    (weaker : ∀ cause, allowed cause → more cause) : run.FailsOnly more := by
  intro e failed
  exact weaker e.cause (h e failed)

/-- A run that has no cause to fail succeeds. -/
theorem FailsOnly.exists_ok {run : Run α} (h : run.FailsOnly allowed)
    (never : ∀ cause, ¬allowed cause) : ∃ a, run.result = .ok a := by
  cases hr : run.result with
  | ok a => exact ⟨a, rfl⟩
  | error e => exact absurd (h e hr) (never e.cause)

end Run

/-! ## Evaluating -/

/-- What evaluating can fail with: in strict mode, a degradation. -/
def Cause.OfEvaluation (mode : Mode) (cause : Cause) : Prop :=
  mode = .strict ∧ ∃ degradation, cause = .degraded degradation

theorem Run.degrade_failsOnly (mode : Mode) (degradation : Degradation) :
    (Run.degrade mode degradation).FailsOnly (Cause.OfEvaluation mode) := by
  cases mode with
  | lenient => exact Run.failsOnly_of_ok rfl
  | strict => exact Run.failsOnly_fail ⟨rfl, degradation, rfl⟩

theorem Run.Degrading.failsOnly {mode : Mode} {α : Type} {run : Run α} (h : run.Degrading mode) :
    run.FailsOnly (Cause.OfEvaluation mode) := by
  induction h with
  | pure a => exact Run.failsOnly_pure a
  | degrade degradation => exact Run.degrade_failsOnly mode degradation
  | bind _ _ first next => exact first.bind next

theorem Value.evaluate_failsOnly (mode : Mode) (table : Variables) (data expression : Value) :
    (expression.evaluate mode table data).FailsOnly (Cause.OfEvaluation mode) :=
  (Value.evaluate_degrading mode table data expression).failsOnly

theorem Variables.extend_failsOnly (mode : Mode) (table : Variables) (declarations : Declarations) :
    (extend mode table declarations).FailsOnly (Cause.OfEvaluation mode) := by
  induction declarations generalizing table with
  | nil => exact Run.failsOnly_pure _
  | cons declaration rest ih =>
      obtain ⟨name, expression⟩ := declaration
      exact ((Value.evaluate_failsOnly mode table .null expression).locate _).bind fun _ => ih _

theorem Cause.not_ofEvaluation_lenient (cause : Cause) : ¬cause.OfEvaluation .lenient := by
  rintro ⟨strict, _⟩
  cases strict

/-- In lenient mode every expression has a value. -/
theorem Value.exists_evaluate_lenient (table : Variables) (data expression : Value) :
    ∃ value, (expression.evaluate .lenient table data).result = .ok value :=
  (Value.evaluate_failsOnly .lenient table data expression).exists_ok Cause.not_ofEvaluation_lenient

/-- In lenient mode every table can be built. -/
theorem Variables.exists_extend_lenient (table : Variables) (declarations : Declarations) :
    ∃ final, (extend .lenient table declarations).result = .ok final :=
  (extend_failsOnly .lenient table declarations).exists_ok Cause.not_ofEvaluation_lenient

/-! ## Rendering -/

/-- What rendering elements can fail with: what evaluating can fail with, or that they stand too
deep. -/
def Cause.OfElements (scope : Scope) (cause : Cause) : Prop :=
  cause.OfEvaluation scope.mode ∨ ∃ limit, scope.maxDepth = some limit ∧ cause = .depthExceeded limit

section Elements

variable (scope : Scope)

theorem Scope.enter_failsOnly (path : String) (depth : Nat) :
    (scope.enter path depth).FailsOnly (Cause.OfElements scope) := by
  rcases scope.enter_cases path depth with ⟨limit, limited, _, tooDeep⟩ | entered
  · rw [tooDeep]
    exact Run.failsOnly_fail (Or.inr ⟨limit, limited, rfl⟩)
  · rw [entered]
    exact Run.failsOnly_of_ok rfl

theorem Scope.evaluate_failsOnly (path : String) (data expression : Value) :
    (scope.evaluate path data expression).FailsOnly (Cause.OfElements scope) :=
  ((Value.evaluate_failsOnly scope.mode scope.table data expression).locate path).mono
    fun _ => Or.inl

theorem Scope.attributes_failsOnly (path : String) (data : Value) (attributes : List Attribute) :
    (scope.attributes path data attributes).FailsOnly (Cause.OfElements scope) := by
  induction attributes with
  | nil => exact Run.failsOnly_pure _
  | cons first rest ih =>
      obtain ⟨name, expression⟩ := first
      exact (Scope.evaluate_failsOnly scope path data expression).bind fun _ =>
        ih.bind fun _ => Run.failsOnly_pure _

/-- What a render fails with goes through its parts, so the render is compared with itself. -/
theorem comparison_failsOnly :
    Comparison scope scope (· = ·) fun run _ => run.FailsOnly (Cause.OfElements scope) where
  nothing := Run.failsOnly_pure _
  seq h hnext := h.bind fun _ => hnext
  write _ := Run.failsOnly_of_ok rfl
  enter := scope.enter_failsOnly
  leaf name path depth expression data _ _ := by
    rw [renderElement]
    exact (scope.evaluate_failsOnly path data expression).bind fun _ => Run.failsOnly_of_ok rfl
  attributed name path depth expression attributes data _ _ := by
    rw [renderElement]
    exact (scope.evaluate_failsOnly path data expression).bind fun _ =>
      (scope.attributes_failsOnly path data attributes).bind fun _ => Run.failsOnly_of_ok rfl
  sequence name path depth entries := by
    rintro data _ rfl
    rcases lists_or_none data name with lists | noList
    · exact .inl lists
    · refine .inr ?_
      rw [renderElement_of_no_list noList]
      exact ((Run.degrade_failsOnly _ _).locate path).mono fun _ => Or.inl

end Elements

/-- What a whole render can fail with. -/
inductive Cause.OfRender (mode : Mode) (request : Request) : Cause → Prop where
  | unconvertible {reason : String} : request.data = .error reason →
      OfRender mode request (.unconvertibleData reason)
  | degraded (degradation : Degradation) : mode = .strict →
      OfRender mode request (.degraded degradation)
  | tooDeep {limit : Nat} : request.maxDepth = some limit →
      OfRender mode request (.depthExceeded limit)

theorem Cause.OfEvaluation.ofRender {mode : Mode} {cause : Cause} (h : cause.OfEvaluation mode)
    (request : Request) : cause.OfRender mode request := by
  obtain ⟨strict, degradation, rfl⟩ := h
  exact .degraded degradation strict

/-- **A render fails only for the data, a degradation in strict mode, or the depth limit.** -/
theorem Template.render_failsOnly (template : Template) (mode : Mode) (request : Request) :
    (template.render mode request).FailsOnly (Cause.OfRender mode request) := by
  rw [Template.render_eq]
  refine Run.FailsOnly.bind ?_ fun data => ?_
  · intro e failed
    cases given : request.data with
    | ok data =>
        rw [given] at failed
        cases failed
    | error reason =>
        rw [given] at failed
        cases failed
        exact .unconvertible given
  refine ((Variables.extend_failsOnly mode template.globals _).mono
    fun cause h => h.ofRender request).bind fun table => ?_
  refine Run.FailsOnly.bind (Run.failsOnly_of_ok rfl) fun _ => ?_
  refine ((comparison_failsOnly _).body template rfl).mono ?_
  rintro cause (evaluation | ⟨limit, limited, rfl⟩)
  · exact evaluation.ofRender request
  · exact .tooDeep limited

end XmlTemplate
