import Mathlib.Data.List.Induction
import XmlTemplate.Proofs.Printing

/-!
# Which texts are calls

A text behind `=` has the shape of a call if it is a name of capital letters and a text in round
brackets, the closing one of which is its end. Such a text is read as a call if what stands between
the outer brackets is on one line (`Call.parse?_eq_some_iff`); all other texts are inert. The
arguments are what remains of the text when it is cut at its commas outside of brackets: `Call.Cut`
says where that is without a count that is carried along.
-/

namespace XmlTemplate

namespace Call

open Text (depth)

/-! ## Commas outside of brackets -/

/-- In front of every comma, the numbers of opening and of closing brackets differ. -/
def IsUncut (s : List Char) : Prop :=
  ∀ front, front ++ [','] <+: s → depth front ≠ 0

/-- The text is cut at the first comma with as many opening as closing brackets in front of it, and
what follows is cut in the same way. -/
inductive Cut : List Char → List (List Char) → Prop where
  | last {s : List Char} : IsUncut s → Cut s [s]
  | comma {s rest : List Char} {cuts : List (List Char)} :
      IsUncut s → depth s = 0 → Cut rest cuts → Cut (s ++ ',' :: rest) (s :: cuts)

theorem IsUncut.nil : IsUncut [] := by
  intro front h
  exact absurd (List.prefix_nil.mp h) (by simp)

/-- A text with a comma to be cut at has a first one. -/
theorem isUncut_or_exists (text : List Char) :
    IsUncut text ∨ ∃ s rest, text = s ++ ',' :: rest ∧ IsUncut s ∧ depth s = 0 := by
  -- along the text from the front: once there is such a comma, it stays the first one
  induction text using List.reverseRecOn with
  | nil => exact .inl .nil
  | append_singleton front c ih =>
      rcases ih with uncut | ⟨s, rest, rfl, uncut, closed⟩
      · by_cases cut : c = ',' ∧ depth front = 0
        · obtain ⟨rfl, closed⟩ := cut
          exact .inr ⟨front, [], rfl, uncut, closed⟩
        · refine .inl fun before h => ?_
          rcases List.prefix_concat_iff.mp h with whole | h
          · obtain ⟨rfl, comma⟩ := List.append_inj' whole rfl
            cases comma
            exact fun closed => cut ⟨rfl, closed⟩
          · exact uncut before h
      · exact .inr ⟨s, rest ++ [c], by simp, uncut, closed⟩

theorem exists_cut (text : List Char) : ∃ cuts, Cut text cuts := by
  induction h : text.length using Nat.strongRecOn generalizing text with
  | ind n ih =>
      rcases isUncut_or_exists text with uncut | ⟨s, rest, rfl, uncut, closed⟩
      · exact ⟨[text], .last uncut⟩
      · have shorter : rest.length < n := by
          rw [← h, List.length_append, List.length_cons]
          omega
        obtain ⟨cuts, cut⟩ := ih rest.length shorter rest rfl
        exact ⟨s :: cuts, .comma uncut closed cut⟩

/-- The pieces of a text are what it is cut into. -/
theorem Cut.eq_pieces {text : List Char} {cuts : List (List Char)} (h : Cut text cuts) :
    cuts = (pieces 0 text).1 :: (pieces 0 text).2 := by
  have within {s : List Char} (uncut : IsUncut s) :
      ∀ front, front ++ [','] <+: s → (0 : Int) + depth front ≠ 0 := by
    intro front h
    rw [Int.zero_add]
    exact uncut front h
  induction h with
  | last uncut =>
      have whole := pieces_append (within uncut) []
      rw [List.append_nil, pieces, List.append_nil] at whole
      rw [whole]
  | comma uncut closed _ ih =>
      rw [pieces_append (within uncut), Int.zero_add, closed, pieces, if_pos ⟨rfl, rfl⟩, ih,
        List.append_nil]

theorem cut_iff {text : List Char} {cuts : List (List Char)} :
    Cut text cuts ↔ cuts = (pieces 0 text).1 :: (pieces 0 text).2 := by
  constructor
  · exact Cut.eq_pieces
  · rintro rfl
    obtain ⟨cuts, cut⟩ := exists_cut text
    rwa [cut.eq_pieces] at cut

/-- The arguments of a text are its cuts without white space at their ends; after the last comma
there is one only if there is text. -/
theorem Cut.splitArguments_eq {text : List Char} {cuts : List (List Char)} (h : Cut text cuts) :
    splitArguments text = (dropEmptyLast cuts).map Text.trim := by
  rw [h.eq_pieces, splitArguments]

/-! ## The shape of a call -/

/-- The body is a name and any text in round brackets, of which the closing one is its end. -/
structure HasShape (body : List Char) (call : Call) : Prop where
  named : Expression.IsFunctionName call.name
  written : body = call.name ++ ('(' :: call.arguments ++ [')'])

/-- **A body is read as a call** if it has the shape of one, with its arguments on one line. -/
theorem parse?_eq_some_iff {body : List Char} {call : Call} :
    parse? body = some call ↔ HasShape body call ∧ '\n' ∉ call.arguments := by
  constructor
  · intro h
    simp only [parse?] at h
    split at h
    case h_2 => contradiction
    rename_i rest opened
    split at h
    case isFalse => contradiction
    rename_i shape
    obtain ⟨nonempty, closed, oneLine⟩ := shape
    obtain ⟨arguments, rfl⟩ := List.getLast?_eq_some_iff.mp closed
    rw [List.dropLast_concat] at h oneLine
    cases h
    refine ⟨⟨⟨nonempty, fun c member => ?_⟩, ?_⟩, oneLine⟩
    · exact of_decide_eq_true (List.all_eq_true.mp List.all_takeWhile c member)
    · show body = body.takeWhile Char.isUpper ++ ('(' :: arguments ++ [')'])
      rw [List.cons_append, ← opened, List.takeWhile_append_dropWhile]
  · rintro ⟨⟨named, written⟩, oneLine⟩
    rw [written]
    exact Expression.Tree.parse?_of_oneLine named oneLine

theorem parse?_eq_none_iff {body : List Char} :
    parse? body = none ↔ ∀ call, HasShape body call → '\n' ∈ call.arguments := by
  rw [Option.eq_none_iff_forall_ne_some]
  simp only [ne_eq, parse?_eq_some_iff, not_and, Decidable.not_not]

end Call

/-! ## What becomes of a body -/

section Body

variable (mode : Mode) (table : Variables) (data : Value)

/-- What a text behind an equals sign is evaluated to. -/
def evaluateBody (body : List Char) : Run Value :=
  (Value.string (String.ofList ('=' :: body))).evaluate mode table data

/-- Each of the texts, evaluated as an expression of its own, one after the other. -/
def evaluateTexts (texts : List (List Char)) : Run (List Value) :=
  texts.mapM fun text => (Value.string (String.ofList text)).evaluate mode table data

theorem evaluateBody_eq (body : List Char) :
    evaluateBody mode table data body
      = (Expression.parse ('=' :: body)).evaluate mode table data := by
  rw [evaluateBody, Value.evaluate, String.toList_ofList]

theorem evaluateAll_parse (texts : List (List Char)) :
    Expression.evaluateAll mode table data (texts.map Expression.parse)
      = evaluateTexts mode table data texts := by
  rw [evaluateTexts]
  induction texts with
  | nil => rfl
  | cons text rest ih =>
      rw [List.map_cons, Expression.evaluateAll, ih, List.mapM_cons, Value.evaluate,
        String.toList_ofList]

/-- A body that is no call is evaluated to nothing, or the error in strict mode. -/
theorem result_evaluateBody_of_none {body : List Char} (h : Call.parse? body = none) :
    (evaluateBody mode table data body).result = match mode with
      | .lenient => .ok .null
      | .strict => .error ⟨.degraded (.malformedCall (String.ofList body)), none⟩ := by
  rw [evaluateBody_eq, Expression.parse_malformed h, Expression.evaluate]
  cases mode <;> rfl

theorem parse_eq_malformed_iff {body : List Char} :
    Expression.parse ('=' :: body) = .malformed body ↔ Call.parse? body = none := by
  constructor
  · intro malformed
    cases read : Call.parse? body with
    | none => rfl
    | some call =>
        cases known : Builtin.ofName? (String.ofList call.name) with
        | none => cases (Expression.parse_unknown read known).symm.trans malformed
        | some function => cases (Expression.parse_call read known).symm.trans malformed
  · exact Expression.parse_malformed

end Body

/--
**Which texts behind an equals sign are calls**, for any variables and data. A text is malformed
unless it has the shape of a call with its arguments on one line; a line break there makes it inert.
A call of a builtin function is this function of the values of its arguments, which are the cuts of
exactly the text between the outer brackets.
-/
theorem call_iff_shape_on_one_line (mode : Mode) (table : Variables) (data : Value)
    (body : List Char) :
    (Expression.parse ('=' :: body) = .malformed body ↔
      ∀ call, Call.HasShape body call → '\n' ∈ call.arguments) ∧
    (∀ call function, Call.HasShape body call → '\n' ∉ call.arguments →
      Builtin.ofName? (String.ofList call.name) = some function →
      ∃ cuts, Call.Cut call.arguments cuts ∧ evaluateBody mode table data body = do
        let values ← evaluateTexts mode table data ((Call.dropEmptyLast cuts).map Text.trim)
        if values.length ≠ function.arity then
          Run.degrade mode (.argumentCount function.name function.arity values.length)
        pure (function.apply values)) ∧
    (∀ call, Call.HasShape body call → '\n' ∉ call.arguments →
      Builtin.ofName? (String.ofList call.name) = none →
      (evaluateBody mode table data body).result = match mode with
        | .lenient => .ok .null
        | .strict => .error ⟨.degraded (.unknownFunction (String.ofList call.name)), none⟩) ∧
    ((∀ call, Call.HasShape body call → '\n' ∈ call.arguments) →
      (evaluateBody mode table data body).result = match mode with
        | .lenient => .ok .null
        | .strict => .error ⟨.degraded (.malformedCall (String.ofList body)), none⟩) := by
  refine ⟨parse_eq_malformed_iff.trans Call.parse?_eq_none_iff, ?_, ?_, ?_⟩
  · intro call function shape oneLine known
    have read := Call.parse?_eq_some_iff.mpr ⟨shape, oneLine⟩
    obtain ⟨cuts, cut⟩ := Call.exists_cut call.arguments
    refine ⟨cuts, cut, ?_⟩
    rw [evaluateBody_eq, Expression.parse_call read known, Expression.evaluate, evaluateAll_parse,
      cut.splitArguments_eq]
  · intro call shape oneLine known
    have read := Call.parse?_eq_some_iff.mpr ⟨shape, oneLine⟩
    rw [evaluateBody_eq, Expression.parse_unknown read known, Expression.evaluate]
    cases mode <;> rfl
  · intro inert
    exact result_evaluateBody_of_none mode table data (Call.parse?_eq_none_iff.mpr inert)

/-- A comma in brackets does not part the arguments, and the empty text behind the last comma is no
argument. On two lines the same call is inert. -/
theorem call_iff_shape_on_one_line_unless :
    Call.HasShape "NOT(, (y, z),)".toList ⟨"NOT".toList, ", (y, z),".toList⟩
      ∧ '\n' ∉ ", (y, z),".toList
      ∧ Builtin.ofName? "NOT" = some .notThen
      ∧ (evaluateBody .lenient .empty .null "NOT(, (y, z),)".toList).result = .ok (.string "(y, z)")
      ∧ (∀ call, Call.HasShape "NOT(,\n(y, z),)".toList call → '\n' ∈ call.arguments)
      ∧ (evaluateBody .strict .empty .null "NOT(,\n(y, z),)".toList).result
        = .error ⟨.degraded (.malformedCall "NOT(,\n(y, z),)"), none⟩ := by
  have shape : Call.HasShape "NOT(, (y, z),)".toList ⟨"NOT".toList, ", (y, z),".toList⟩ :=
    ⟨by decide, by decide⟩
  have inert : ∀ call, Call.HasShape "NOT(,\n(y, z),)".toList call → '\n' ∈ call.arguments :=
    Call.parse?_eq_none_iff.mp (by decide)
  refine ⟨shape, by decide, by decide, ?_, inert,
    (call_iff_shape_on_one_line .strict .empty .null _).2.2.2 inert⟩
  obtain ⟨cuts, cut, run⟩ := (call_iff_shape_on_one_line .lenient .empty .null _).2.1 _ .notThen
    shape (by decide) (by decide)
  have found : cuts = ["".toList, " (y, z)".toList, "".toList] := cut.eq_pieces.trans (by decide)
  have texts : (Call.dropEmptyLast cuts).map Text.trim = ["".toList, "(y, z)".toList] := by
    rw [found]
    decide
  rw [run, texts, ← evaluateAll_parse, List.map_cons, List.map_cons, List.map_nil,
    Expression.parse_text (by decide), Expression.parse_text (by decide)]
  rfl

/-- **Not every text of the shape of a call is one**: with a line break between its arguments, a sum
of two numbers comes to nothing. -/
theorem exists_call_inert :
    ∃ body call cuts values, Call.HasShape body call ∧
      Builtin.ofName? (String.ofList call.name) = some .sum ∧ Call.Cut call.arguments cuts ∧
      (evaluateTexts .lenient .empty .null ((Call.dropEmptyLast cuts).map Text.trim)).result
        = .ok values ∧
      Builtin.sum.apply values = .float (Decimal.ofInt 3) ∧
      (evaluateBody .lenient .empty .null body).result = .ok .null := by
  have cut : Call.Cut "1,\n2".toList ["1".toList, "\n2".toList] := Call.cut_iff.mpr (by decide)
  have texts : (Call.dropEmptyLast ["1".toList, "\n2".toList]).map Text.trim
      = ["1".toList, "2".toList] := by decide
  refine ⟨"SUM(1,\n2)".toList, ⟨"SUM".toList, "1,\n2".toList⟩, _, [.string "1", .string "2"],
    ⟨by decide, by decide⟩, by decide, cut, ?_, ?_, ?_⟩
  · rw [texts, ← evaluateAll_parse, List.map_cons, List.map_cons, List.map_nil,
      Expression.parse_text (by decide), Expression.parse_text (by decide)]
    rfl
  · exact congrArg Value.float (by decide)
  · exact result_evaluateBody_of_none _ _ _ (by decide)

end XmlTemplate
