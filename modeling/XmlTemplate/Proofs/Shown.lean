import XmlTemplate.Proofs.Legal

/-!
# What an expression shows

The text that an expression has is put together from pieces of its own text, from the texts of
values in the table and in the data, and from numbers. So where these are legal, what is shown is
legal in both modes; and the table of a render is legal if the expressions that it is built from
are.
-/

namespace XmlTemplate

open Xml (LegalText)

/-! ## Pieces of a text -/

theorem Placeholder.mem_of_mem_split {opening text : List Char} {piece : Placeholder.Piece}
    (member : piece ∈ split opening text) {c : Char} (h : c ∈ piece.text opening) : c ∈ text := by
  rw [← join_split opening text, join]
  exact List.mem_flatMap.mpr ⟨piece, member, h⟩

theorem Text.mem_of_mem_trim {s : List Char} {c : Char} (h : c ∈ trim s) : c ∈ s := by
  have inFront : c ∈ s.dropWhile isBlank := by
    have inner := (List.dropWhile_suffix isBlank).subset (List.mem_reverse.mp h)
    exact List.mem_reverse.mp inner
  exact (List.dropWhile_suffix isBlank).subset inFront

namespace Call

theorem mem_of_mem_pieces {depth : Int} {text : List Char} {c : Char} :
    ∀ piece ∈ (pieces depth text).1 :: (pieces depth text).2, c ∈ piece → c ∈ text := by
  induction text generalizing depth with
  | nil =>
      intro piece member inPiece
      rw [pieces, List.mem_singleton] at member
      rwa [member] at inPiece
  | cons first rest ih =>
      intro piece member inPiece
      rw [pieces] at member
      split at member
      · rcases List.mem_cons.mp member with rfl | later
        · exact absurd inPiece (by simp)
        · exact List.mem_cons_of_mem _ (ih piece later inPiece)
      · rcases List.mem_cons.mp member with rfl | later
        · rcases List.mem_cons.mp inPiece with rfl | inRest
          · exact List.mem_cons_self
          · exact List.mem_cons_of_mem _ (ih _ List.mem_cons_self inRest)
        · exact List.mem_cons_of_mem _ (ih piece (List.mem_cons_of_mem _ later) inPiece)

theorem mem_of_mem_argument {text argument : List Char} (member : argument ∈ splitArguments text)
    {c : Char} (h : c ∈ argument) : c ∈ text := by
  rw [splitArguments] at member
  obtain ⟨piece, among, rfl⟩ := List.mem_map.mp member
  exact mem_of_mem_pieces piece (mem_of_mem_dropEmptyLast among) (Text.mem_of_mem_trim h)

theorem mem_of_mem_arguments {body : List Char} {call : Call} (h : parse? body = some call)
    {c : Char} (member : c ∈ call.arguments) : c ∈ body := by
  rw [parse?] at h
  split at h
  · rename_i rest dropped
    split at h
    · cases h
      have inRest : c ∈ '(' :: rest :=
        List.mem_cons_of_mem _ ((List.dropLast_sublist _).subset member)
      rw [← dropped] at inRest
      exact (List.dropWhile_suffix _).subset inRest
    · cases h
  · cases h

end Call

/-! ## Expressions of legal texts -/

namespace Expression

mutual

/-- The texts with placeholders in the expression are legal. -/
def Legal : Expression → Prop
  | .text s => LegalText s
  | .call _ arguments => AllLegal arguments
  | .unknown _ => True
  | .malformed _ => True

def AllLegal : List Expression → Prop
  | [] => True
  | expression :: rest => Legal expression ∧ AllLegal rest

end

theorem allLegal_iff {expressions : List Expression} :
    AllLegal expressions ↔ ∀ expression ∈ expressions, expression.Legal := by
  induction expressions with
  | nil => simp [AllLegal]
  | cons expression rest ih => rw [AllLegal, ih, List.forall_mem_cons]

/-- The parts of a legal text are legal. -/
theorem legal_parse (s : List Char) (legal : LegalText s) : (parse s).Legal := by
  by_cases isCall : s.head? = some '='
  · obtain ⟨body, rfl⟩ := List.head?_eq_some_iff.mp isCall
    cases shape : Call.parse? body with
    | none =>
        rw [parse_malformed shape]
        trivial
    | some call =>
        cases function : Builtin.ofName? (String.ofList call.name) with
        | none =>
            rw [parse_unknown shape function]
            trivial
        | some builtin =>
            rw [parse_call shape function, Legal, allLegal_iff]
            intro expression member
            obtain ⟨argument, among, rfl⟩ := List.mem_map.mp member
            -- an argument is a part of the body, behind the name of the function
            have shorter : argument.length < body.length :=
              Nat.lt_of_le_of_lt (Call.length_le_of_mem_splitArguments among)
                (Call.length_arguments_lt shape)
            refine legal_parse argument (legal.mono fun c inArgument => ?_)
            have inArguments := Call.mem_of_mem_argument among inArgument
            exact List.mem_cons_of_mem _ (Call.mem_of_mem_arguments shape inArguments)
  · rw [parse_text isCall]
    exact legal
termination_by s.length
decreasing_by
  subst_vars
  simp only [List.length_cons]
  omega

end Expression

/-! ## Evaluation -/

/-- What is stored in the table is legal. -/
def Variables.Legal (table : Variables) : Prop :=
  ∀ name value, table.get? name = some value → value.Legal

section Evaluated

variable {mode : Mode} {table : Variables} {data : Value}

theorem legalText_dataText (legal : data.Legal) {path text : List Char}
    (h : (dataText mode data path).result = .ok text) : LegalText text := by
  rw [dataText] at h
  cases found : data.lookup? path with
  | none =>
      rw [found] at h
      obtain ⟨_, _, h⟩ := Run.result_bind_eq_ok h
      cases h
      exact LegalText.nil
  | some value =>
      rw [found] at h
      have shown : text = value.display.toList := by
        dsimp only at h
        split at h
        · obtain ⟨_, _, h⟩ := Run.result_bind_eq_ok h
          exact (Except.ok.inj h).symm
        · exact (Except.ok.inj h).symm
      rw [shown]
      exact (legal.lookup? found).display

theorem legalText_fillPieces (legal : data.Legal) {pieces : List Placeholder.Piece}
    (legalPieces : ∀ piece ∈ pieces, LegalText (piece.text Placeholder.dataOpening))
    {text : List Char} (h : (fillPieces mode data pieces).result = .ok text) : LegalText text := by
  induction pieces generalizing text with
  | nil =>
      cases h
      exact LegalText.nil
  | cons piece rest ih =>
      obtain ⟨first, later⟩ := List.forall_mem_cons.mp legalPieces
      cases piece with
      | char c =>
          obtain ⟨filled, more, h⟩ := Run.result_bind_eq_ok h
          cases h
          exact LegalText.append first (ih later more)
      | placeholder body =>
          obtain ⟨inserted, found, h⟩ := Run.result_bind_eq_ok h
          obtain ⟨filled, more, h⟩ := Run.result_bind_eq_ok h
          cases h
          exact (legalText_dataText legal found).append (ih later more)

theorem legalText_substituteData (legal : data.Legal) {text filled : List Char}
    (legalText : LegalText text) (h : (substituteData mode data text).result = .ok filled) :
    LegalText filled := by
  refine legalText_fillPieces legal (fun piece member => ?_) h
  exact legalText.mono fun _ => Placeholder.mem_of_mem_split member

theorem legalText_substitutePieces (legalTable : table.Legal) (legal : data.Legal)
    {waiting : List Char} (legalWaiting : LegalText waiting) {pieces : List Placeholder.Piece}
    (legalPieces : ∀ piece ∈ pieces, LegalText (piece.text Placeholder.variableOpening))
    {text : List Char} (h : (substitutePieces mode table data waiting pieces).result = .ok text) :
    LegalText text := by
  -- what waits for its data placeholders is kept in reverse, values of variables included
  have reversed {s : List Char} (legalText : LegalText s) : LegalText s.reverse :=
    legalText.mono fun _ => List.mem_reverse.mp
  induction pieces generalizing waiting text with
  | nil => exact legalText_substituteData legal (reversed legalWaiting) h
  | cons piece rest ih =>
      obtain ⟨first, later⟩ := List.forall_mem_cons.mp legalPieces
      cases piece with
      | char c =>
          have front : LegalText (c :: waiting) := LegalText.append first legalWaiting
          exact ih front later h
      | placeholder body =>
          rw [substitutePieces] at h
          cases found : table.get? (String.ofList body) with
          | some value =>
              rw [found] at h
              have inserted := reversed (legalTable _ value found).display
              exact ih (inserted.append legalWaiting) later h
          | none =>
              rw [found] at h
              obtain ⟨_, _, h⟩ := Run.result_bind_eq_ok h
              obtain ⟨front, filled, h⟩ := Run.result_bind_eq_ok h
              obtain ⟨back, more, h⟩ := Run.result_bind_eq_ok h
              cases h
              have before := legalText_substituteData legal (reversed legalWaiting) filled
              exact (before.append first).append (ih LegalText.nil later more)

theorem Value.legal_choice {arguments : List Value} (legal : ∀ v ∈ arguments, v.Legal) (i : Nat) :
    (Builtin.choice arguments i).Legal := by
  rw [Builtin.choice]
  cases found : arguments[i]? with
  | none => trivial
  | some value => exact legal value (List.mem_of_getElem? found)

/-- A function gives a number, a truth value or one of its arguments. -/
theorem Value.legal_apply {function : Builtin} {arguments : List Value}
    (legal : ∀ v ∈ arguments, v.Legal) : (function.apply arguments).Legal := by
  cases function with
  | sum | diff | prod | quot | eq | lt | lte | gt | gte => trivial
  | ifThen | notThen =>
      show Value.Legal (if Builtin.condition arguments 0 then _ else _)
      split
      · exact Value.legal_choice legal _
      · exact Value.legal_choice legal _

mutual

theorem Expression.legal_evaluate (legalTable : table.Legal) (legal : data.Legal) :
    ∀ {expression : Expression} {value : Value}, expression.Legal →
      (expression.evaluate mode table data).result = .ok value → value.Legal
  | .text s, value, legalText, h => by
      rw [evaluate] at h
      obtain ⟨text, substituted, h⟩ := Run.result_bind_eq_ok h
      cases h
      have pieces : ∀ piece ∈ Placeholder.split Placeholder.variableOpening s,
          LegalText (piece.text Placeholder.variableOpening) := fun piece member =>
        LegalText.mono legalText fun _ => Placeholder.mem_of_mem_split member
      rw [Value.Legal, String.toList_ofList]
      exact legalText_substitutePieces legalTable legal LegalText.nil pieces substituted
  | .call function arguments, value, legalArguments, h => by
      rw [evaluate] at h
      obtain ⟨values, evaluated, h⟩ := Run.result_bind_eq_ok h
      have applied : value = function.apply values := by
        dsimp only at h
        split at h
        · obtain ⟨_, _, h⟩ := Run.result_bind_eq_ok h
          exact (Except.ok.inj h).symm
        · exact (Except.ok.inj h).symm
      rw [applied]
      exact Value.legal_apply
        (Expression.legal_evaluateAll legalTable legal legalArguments evaluated)
  | .unknown _, value, _, h => by
      rw [evaluate] at h
      obtain ⟨_, _, h⟩ := Run.result_bind_eq_ok h
      cases h
      trivial
  | .malformed _, value, _, h => by
      rw [evaluate] at h
      obtain ⟨_, _, h⟩ := Run.result_bind_eq_ok h
      cases h
      trivial

theorem Expression.legal_evaluateAll (legalTable : table.Legal) (legal : data.Legal) :
    ∀ {expressions : List Expression} {values : List Value}, AllLegal expressions →
      (evaluateAll mode table data expressions).result = .ok values →
      ∀ value ∈ values, value.Legal
  | [], values, _, h => by
      cases h
      intro value member
      exact absurd member (by simp)
  | expression :: rest, values, ⟨first, later⟩, h => by
      rw [evaluateAll] at h
      obtain ⟨value, evaluated, h⟩ := Run.result_bind_eq_ok h
      obtain ⟨more, evaluatedRest, h⟩ := Run.result_bind_eq_ok h
      cases h
      exact List.forall_mem_cons.mpr ⟨Expression.legal_evaluate legalTable legal first evaluated,
        Expression.legal_evaluateAll legalTable legal later evaluatedRest⟩

end

/-- **From legal texts comes a legal value.** -/
theorem Value.Legal.evaluate {expression value : Value} (legalExpression : expression.Legal)
    (legalTable : table.Legal) (legal : data.Legal)
    (h : (expression.evaluate mode table data).result = .ok value) : value.Legal := by
  cases expression with
  | string s =>
      have parsed := Expression.legal_parse s.toList legalExpression
      exact Expression.legal_evaluate legalTable legal parsed h
  | null | bool | int | float | list | map =>
      cases h
      exact legalExpression

end Evaluated

/-! ## The table of a render -/

/-- All texts in the declared expressions are legal. -/
def Declarations.Legal (declarations : Declarations) : Prop :=
  ∀ declaration ∈ declarations, declaration.2.Legal

theorem Declarations.Legal.merge {runtime template : Declarations} (legalRuntime : runtime.Legal)
    (legalTemplate : template.Legal) : (Declarations.merge runtime template).Legal := by
  rintro ⟨name, expression⟩ member
  have found := Entries.get?_of_mem (nodup_names_merge runtime template) member
  rw [get?_merge] at found
  rcases Option.or_eq_some_iff.mp found with last | ⟨_, last⟩
  · exact legalTemplate _ (List.mem_reverse.mp (Entries.mem_of_get? last))
  · exact legalRuntime _ (List.mem_reverse.mp (Entries.mem_of_get? last))

theorem Variables.legal_empty : Variables.Legal .empty := by
  intro name value found
  cases found

theorem Variables.Legal.put {table : Variables} (legal : table.Legal) (name : String)
    {value : Value} (legalValue : value.Legal) : Legal (table.put name value) := by
  intro other stored found
  by_cases same : name = other
  · rw [← same, Dictionary.get?_put_self] at found
    cases found
    exact legalValue
  · rw [Dictionary.get?_put_of_ne _ same] at found
    exact legal other stored found

theorem Variables.Legal.extend {mode : Mode} {table final : Variables} (legal : table.Legal)
    {declarations : Declarations} (legalDeclarations : declarations.Legal)
    (h : (extend mode table declarations).result = .ok final) : final.Legal := by
  induction declarations generalizing table with
  | nil =>
      cases h
      exact legal
  | cons declaration rest ih =>
      obtain ⟨name, expression⟩ := declaration
      obtain ⟨first, later⟩ := List.forall_mem_cons.mp legalDeclarations
      obtain ⟨value, evaluated, built⟩ := extend_cons_eq_ok.mp h
      -- declarations are evaluated without data
      have noData : Value.Legal .null := trivial
      have legalValue : value.Legal := first.evaluate legal noData evaluated
      exact ih (legal.put name legalValue) later built

end XmlTemplate
