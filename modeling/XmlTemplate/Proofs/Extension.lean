import Mathlib
import XmlTemplate.Stream
import XmlTemplate.Proofs.Comparison
import XmlTemplate.Proofs.Lookup
import XmlTemplate.Proofs.Related

/-!
# More data do not change a strict render

In strict mode nothing can be made of the absence of data: a path that leads nowhere is an error, and
so are a path to a list or a map in a text and a sequence without its list. So a strict render that
succeeds has seen of the data only scalars and the lengths of lists, and data that have more entries
in their maps give the same render. It goes for every function on the way from a placeholder to the
whole render that if its run succeeds, the run with the additional data is that same run
(`Run.KeptBy`).
-/

namespace XmlTemplate

/-! ## Equal scalars -/

namespace Value

/-- Equal numbers have the same text: zero has no sign in it. -/
theorem float_eq_of_beq {x y : Float} (h : (x == y) = true) :
    numberLayout.float x = numberLayout.float y := by
  obtain ⟨_, _, rfl | ⟨rfl, rfl⟩ | ⟨rfl, rfl⟩⟩ := Float.beq_iff_ne_nan_and_eq.mp h
  · rfl
  · decide +kernel
  · decide +kernel

/-- Equal scalars are of one kind and have the same text. -/
theorem IsScalar.kind_display_of_sameValue {value value' : Value} (h : value.IsScalar)
    (same : value.sameValue value' = true) :
    value'.kind = value.kind ∧ value'.display = value.display := by
  cases value with
  | list items => exact h.elim
  | map entries => exact h.elim
  | float x =>
      cases value' with
      | float y => exact ⟨rfl, (float_eq_of_beq same).symm⟩
      | null | bool | int | string | list | map => cases same
  | null | bool | int | string =>
      cases value' with
      | null | bool | int | float | string | list | map => simp_all [sameValue]

/-- What extends a value that a text can show is shown in the same way. -/
theorem ExtendedBy.kind_display {value value' : Value} (h : value.ExtendedBy value')
    (shown : ¬(value.kind = .list ∨ value.kind = .map)) :
    value'.kind = value.kind ∧ value'.display = value.display := by
  cases h with
  | scalar scalar equal =>
      rcases equal with rfl | same
      · exact ⟨rfl, rfl⟩
      · exact scalar.kind_display_of_sameValue same
  | list => exact absurd (.inl rfl) shown
  | map => exact absurd (.inr rfl) shown

end Value

/-! ## Runs that are kept -/

namespace Run

variable {α β : Type}

/-- If the first run succeeds, the second one is the same. -/
def KeptBy (run run' : Run α) : Prop :=
  ∀ a, run.result = .ok a → run' = run

theorem KeptBy.rfl {run : Run α} : run.KeptBy run :=
  fun _ _ => Eq.refl _

theorem KeptBy.bind {run run' : Run α} {next next' : α → Run β} (h : run.KeptBy run')
    (hnext : ∀ a, (next a).KeptBy (next' a)) : (run >>= next).KeptBy (run' >>= next') := by
  intro b success
  obtain ⟨a, first, second⟩ := result_bind_eq_ok success
  rw [h a first, bind_of_ok first, bind_of_ok first, hnext a b second]

theorem KeptBy.locate {run run' : Run α} (h : run.KeptBy run') (path : String) :
    (run.locate path).KeptBy (run'.locate path) := by
  intro a success
  rw [h a (result_locate_eq_ok.mp success)]

end Run

/-! ## Evaluating -/

section Evaluation

variable {table : Variables} {data data' : Value}

theorem dataText_keptBy (more : data.ExtendedBy data') (path : List Char) :
    (dataText .strict data path).KeptBy (dataText .strict data' path) := by
  intro text success
  rw [dataText] at success
  cases found : data.lookup? path with
  | none =>
      rw [found] at success
      exact absurd success degrade_strict_ne_ok
  | some value =>
      obtain ⟨value', found', extended⟩ := more.lookup? found
      rw [found] at success
      by_cases compound : value.kind = .list ∨ value.kind = .map
      · simp only [if_pos compound] at success
        exact absurd success degrade_strict_ne_ok
      · obtain ⟨kind, display⟩ := extended.kind_display compound
        rw [dataText, dataText, found, found']
        simp only [kind, display, if_neg compound]

theorem fillPieces_keptBy (more : data.ExtendedBy data') (pieces : List Placeholder.Piece) :
    (fillPieces .strict data pieces).KeptBy (fillPieces .strict data' pieces) := by
  induction pieces with
  | nil => exact .rfl
  | cons piece rest ih =>
      cases piece with
      | char c => exact ih.bind fun _ => .rfl
      | placeholder body => exact (dataText_keptBy more _).bind fun _ => ih.bind fun _ => .rfl

theorem substitutePieces_keptBy (more : data.ExtendedBy data') (waiting : List Char)
    (pieces : List Placeholder.Piece) :
    (substitutePieces .strict table data waiting pieces).KeptBy
      (substitutePieces .strict table data' waiting pieces) := by
  induction pieces generalizing waiting with
  | nil => exact fillPieces_keptBy more _
  | cons piece rest ih =>
      cases piece with
      | char c => exact ih (c :: waiting)
      | placeholder body =>
          rw [substitutePieces, substitutePieces]
          cases table.get? (String.ofList body) with
          | some value => exact ih _
          | none =>
              exact Run.KeptBy.rfl.bind fun _ => (fillPieces_keptBy more _).bind fun _ =>
                (ih []).bind fun _ => .rfl

mutual

theorem Expression.evaluate_keptBy (more : data.ExtendedBy data') :
    ∀ expression : Expression, (expression.evaluate .strict table data).KeptBy
      (expression.evaluate .strict table data')
  | .text s => by
      rw [evaluate, evaluate]
      exact (substitutePieces_keptBy more _ _).bind fun _ => .rfl
  | .call function arguments => by
      rw [evaluate, evaluate]
      exact (Expression.evaluateAll_keptBy more arguments).bind fun _ => .rfl
  | .unknown _ => .rfl
  | .malformed _ => .rfl

theorem Expression.evaluateAll_keptBy (more : data.ExtendedBy data') :
    ∀ expressions : List Expression, (evaluateAll .strict table data expressions).KeptBy
      (evaluateAll .strict table data' expressions)
  | [] => .rfl
  | expression :: rest => by
      rw [evaluateAll, evaluateAll]
      exact (Expression.evaluate_keptBy more expression).bind fun _ =>
        (Expression.evaluateAll_keptBy more rest).bind fun _ => .rfl

end

theorem Value.evaluate_keptBy (more : data.ExtendedBy data') (expression : Value) :
    (expression.evaluate .strict table data).KeptBy (expression.evaluate .strict table data') := by
  cases expression with
  | string s => exact Expression.evaluate_keptBy more _
  | null | bool | int | float | list | map => exact .rfl

end Evaluation

/-! ## Rendering -/

section Rendering

variable (table : Variables) (limit : Option Nat)

theorem Scope.evaluate_keptBy {data data' : Value} (more : data.ExtendedBy data')
    (path : String) (expression : Value) :
    (Scope.evaluate ⟨.strict, table, limit⟩ path data expression).KeptBy
      (Scope.evaluate ⟨.strict, table, limit⟩ path data' expression) :=
  (Value.evaluate_keptBy more expression).locate path

theorem Scope.attributes_keptBy {data data' : Value} (more : data.ExtendedBy data')
    (path : String) (attributes : List Attribute) :
    (Scope.attributes ⟨.strict, table, limit⟩ path data attributes).KeptBy
      (Scope.attributes ⟨.strict, table, limit⟩ path data' attributes) := by
  induction attributes with
  | nil => exact .rfl
  | cons first rest ih =>
      exact (Scope.evaluate_keptBy table limit more path first.expression).bind fun _ =>
        ih.bind fun _ => .rfl

theorem comparison_extendedBy :
    Comparison ⟨.strict, table, limit⟩ ⟨.strict, table, limit⟩ Value.ExtendedBy Run.KeptBy where
  nothing := .rfl
  seq h hnext := h.bind fun _ => hnext
  write _ := .rfl
  enter _ _ := .rfl
  leaf name path depth expression data data' more := by
    rw [renderElement, renderElement]
    exact (Scope.evaluate_keptBy table limit more path expression).bind fun _ => .rfl
  attributed name path depth expression attributes data data' more := by
    rw [renderElement, renderElement]
    exact (Scope.evaluate_keptBy table limit more path expression).bind fun _ =>
      (Scope.attributes_keptBy table limit more path attributes).bind fun _ => .rfl
  sequence name path depth entries data data' more := by
    by_cases list : ∃ items, data.lookup? name.toList = some (.list items)
    · obtain ⟨items, found⟩ := list
      obtain ⟨found', here, extended⟩ := more.lookup? found
      cases extended with
      | scalar scalar _ => exact scalar.elim
      | list extended => exact .inl ⟨_, _, found, here, extended⟩
    · -- without a list the strict render fails here, so there is nothing to keep
      refine .inr fun done success => ?_
      rw [renderElement_of_no_list (not_exists.mp list)] at success
      cases success

end Rendering

/--
**Strict output is stable under adding data.**

Let the first data be extended by the second. If the strict render of the first succeeds, then that
of the second succeeds with the identical output; it even does the same things one by one.
-/
theorem strict_render_of_extendedBy (template : Template) (runtime : Declarations)
    (limit : Option Nat) {data data' : Value} {xml : String} (more : data.ExtendedBy data')
    (success : (template.renderWithin .strict data runtime limit).text = .ok xml) :
    (template.renderWithin .strict data' runtime limit).text = .ok xml
      ∧ template.renderWithin .strict data' runtime limit
        = template.renderWithin .strict data runtime limit := by
  have kept : (template.renderWithin .strict data runtime limit).KeptBy
      (template.renderWithin .strict data' runtime limit) := by
    rw [Template.renderWithin_eq, Template.renderWithin_eq]
    exact Run.KeptBy.rfl.bind fun table => Run.KeptBy.rfl.bind fun _ =>
      (comparison_extendedBy table limit).body template more
  cases ended : (template.renderWithin .strict data runtime limit).result with
  | error e =>
      rw [Run.text, ended] at success
      cases success
  | ok done =>
      have same := kept done ended
      rw [same]
      exact ⟨success, rfl⟩

/-- A template that shows a list of maps. -/
def pricesTemplate : Template where
  root := "r"
  declarations := []
  globals := .empty
  elements := [("s", .sequence [[("p", .leaf (.string "=PROD(${price}, 2)"))]])]

/-- Data for it. -/
def pricesData : Value :=
  .map [("s", .list [.map [("price", .int 3)]])]

/-- The same with an entry more in the map at the top and in the item, and with the list under
another key as well. -/
def pricesDataMore : Value :=
  .map [("s", .list [.map [("note", .string "x"), ("price", .int 3)]]), ("t", .list [])]

theorem strict_render_of_extendedBy_prices :
    pricesData.ExtendedBy pricesDataMore ∧
    (pricesTemplate.renderWithin .strict pricesDataMore [] none).text
      = .ok "<r><s><p>6</p></s></r>" := by
  have item : (Value.map [("price", .int 3)]).ExtendedBy
      (.map [("note", .string "x"), ("price", .int 3)]) := by
    refine .map (by simp) fun key value value' h h' => ?_
    simp only [Entries.get?] at h h'
    split at h
    · subst key
      cases h
      cases h'
      exact .scalar trivial (.inl rfl)
    · cases h
  have more : pricesData.ExtendedBy pricesDataMore := by
    refine .map (by simp) fun key value value' h h' => ?_
    simp only [Entries.get?] at h h'
    split at h
    · rw [if_pos ‹_›] at h'
      cases h
      cases h'
      exact .list (.cons item .nil)
    · cases h
  have success : (pricesTemplate.renderWithin .strict pricesData [] none).text
      = .ok "<r><s><p>6</p></s></r>" := by
    decide +kernel
  exact ⟨more, (strict_render_of_extendedBy pricesTemplate [] none more success).1⟩

end XmlTemplate
