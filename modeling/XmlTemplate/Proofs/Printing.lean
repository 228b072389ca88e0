import XmlTemplate.Proofs.Bracket
import XmlTemplate.Proofs.Term

/-!
# Printed expressions

An expression is written as a text, with a comma and a blank between the arguments of a call. An
`Expression.Tree` is what such a text is meant to say, and `Expression.Tree.meaning` is what it
means, said along the tree and without a word on commas or brackets. The main statement,
`evaluate_printed`, is that evaluating the text gives this meaning: reading finds every argument, at
every level, where it was written (`parse_printed`).
-/

namespace XmlTemplate

/-! ## Functions of missing arguments -/

namespace Builtin

/-- A number that may be missing. -/
def operand : Option Value → Float
  | some value => value.toNumber
  | none => Decimal.nan

/-- A condition that may be missing. -/
def holds : Option Value → Bool
  | some value => value.isTruthy
  | none => false

/-- What the function gives for at most three arguments, each of which may be missing. -/
def on (f : Builtin) (first second third : Option Value) : Value :=
  match f with
  | .sum => .float (operand first + operand second)
  | .diff => .float (operand first - operand second)
  | .prod => .float (operand first * operand second)
  | .quot => .float (operand first / operand second)
  | .eq => .bool (equal first second)
  | .lt => .bool (operand first < operand second)
  | .lte => .bool (operand first ≤ operand second)
  | .gt | .gte => .bool (operand second < operand first)
  | .ifThen => if holds first then second.getD .null else third.getD .null
  | .notThen => if holds first then third.getD .null else second.getD .null

theorem number_eq_operand (arguments : List Value) (i : Nat) :
    number arguments i = operand arguments[i]? := by
  rw [number]
  cases arguments[i]? <;> rfl

theorem condition_eq_holds (arguments : List Value) (i : Nat) :
    condition arguments i = holds arguments[i]? := by
  rw [condition]
  cases arguments[i]? <;> rfl

/-- Missing arguments are missing, and those behind the third are ignored. -/
theorem apply_eq_on (f : Builtin) (arguments : List Value) :
    f.apply arguments = f.on arguments[0]? arguments[1]? arguments[2]? := by
  cases f <;> simp only [apply, on, number_eq_operand, condition_eq_holds, choice]

end Builtin

/-! ## Trees -/

namespace Expression

/-- What the text of an expression is meant to say. -/
inductive Tree where
  /-- A text with placeholders. -/
  | atom (s : List Char)
  | call (name : List Char) (arguments : List Tree)

/-- The text can stand as an argument that is no call. -/
structure IsAtom (s : List Char) : Prop where
  noCall : s.head? ≠ some '='
  oneLine : '\n' ∉ s
  trimmed : Text.IsTrimmed s
  enclosed : Text.IsEnclosed s

/-- One or more letters from `A` to `Z`. -/
def IsFunctionName (name : List Char) : Prop :=
  name ≠ [] ∧ ∀ c ∈ name, 'A' ≤ c ∧ c ≤ 'Z'

instance : DecidablePred IsAtom := fun s =>
  decidable_of_iff
    (s.head? ≠ some '=' ∧ '\n' ∉ s ∧ Text.IsTrimmed s ∧ Text.IsEnclosed s)
    ⟨fun ⟨noCall, oneLine, trimmed, enclosed⟩ => ⟨noCall, oneLine, trimmed, enclosed⟩,
      fun h => ⟨h.noCall, h.oneLine, h.trimmed, h.enclosed⟩⟩

instance : DecidablePred IsFunctionName := fun name =>
  decidable_of_iff (name ≠ [] ∧ name.all (fun c => 'A' ≤ c ∧ c ≤ 'Z') = true) <| by
    simp only [IsFunctionName, List.all_eq_true, decide_eq_true_eq]

namespace Tree

mutual

/-- Atoms and names are such that the tree can be written. A single argument may not be empty, for
it could not be seen. -/
def Printable : Tree → Prop
  | atom s => IsAtom s
  | call name arguments =>
    IsFunctionName name ∧ arguments ≠ [atom []] ∧ AllPrintable arguments

def AllPrintable : List Tree → Prop
  | [] => True
  | tree :: rest => Printable tree ∧ AllPrintable rest

end

mutual

/-- The tree as it is written. -/
def printed : Tree → List Char
  | atom s => s
  | call name arguments => '=' :: name ++ '(' :: Call.join (printedAll arguments) ++ [')']

def printedAll : List Tree → List (List Char)
  | [] => []
  | tree :: rest => printed tree :: printedAll rest

end

mutual

/-- What the tree means: an atom is the text in which its placeholders are filled in, a call is the
function of what its arguments mean, and a function that does not exist gives nothing. -/
def meaning (table : Variables) (data : Value) : Tree → Value
  | atom s => .string (String.ofList (filled table data s))
  | call name arguments =>
    match Builtin.ofName? (String.ofList name) with
    | some function =>
      let values := meanings table data arguments
      function.on values[0]? values[1]? values[2]?
    | none => .null

def meanings (table : Variables) (data : Value) : List Tree → List Value
  | [] => []
  | tree :: rest => meaning table data tree :: meanings table data rest

end

mutual

/-- The expression that is read from the text of the tree. -/
def expression : Tree → Expression
  | atom s => .text s
  | call name arguments =>
    match Builtin.ofName? (String.ofList name) with
    | some function => .call function (expressions arguments)
    | none => .unknown name

def expressions : List Tree → List Expression
  | [] => []
  | tree :: rest => expression tree :: expressions rest

end

/-! ## Reading what is written -/

theorem printed_call (name : List Char) (arguments : List Tree) :
    (call name arguments).printed
      = '=' :: (name ++ ('(' :: Call.join (printedAll arguments) ++ [')'])) := by
  rw [printed]
  simp

theorem isUpper_of_isFunctionName {name : List Char} (h : IsFunctionName name) :
    ∀ c ∈ name, c.isUpper = true := by
  intro c member
  obtain ⟨low, high⟩ := h.2 c member
  exact decide_eq_true ⟨low, high⟩

/-- A letter is no bracket, no comma and no line break. -/
theorem plain_of_isUpper {c : Char} (h : c.isUpper = true) :
    Call.nesting c = 0 ∧ c ≠ ',' ∧ c ≠ '\n' := by
  have differs : ∀ d : Char, d.isUpper = false → c ≠ d := by
    rintro d lower rfl
    exact absurd h (by simp [lower])
  refine ⟨?_, differs ',' rfl, differs '\n' rfl⟩
  rw [Call.nesting, if_neg (differs '(' rfl), if_neg (differs ')' rfl)]

theorem balanced_joinRest {arguments : List (List Char)}
    (h : ∀ a ∈ arguments, Text.IsEnclosed a) : Text.IsBalanced (Call.joinRest arguments) := by
  induction arguments with
  | nil => exact .nil
  | cons a rest ih =>
      have first := ((h a List.mem_cons_self).toIsBalanced.cons (c := ' ') rfl).cons (c := ',') rfl
      exact first.append (ih fun b member => h b (List.mem_cons_of_mem _ member))

theorem balanced_join {arguments : List (List Char)} (h : ∀ a ∈ arguments, Text.IsEnclosed a) :
    Text.IsBalanced (Call.join arguments) := by
  cases arguments with
  | nil => exact .nil
  | cons a rest =>
      exact (h a List.mem_cons_self).toIsBalanced.append
        (balanced_joinRest fun b member => h b (List.mem_cons_of_mem _ member))

theorem oneLine_join {arguments : List (List Char)} (h : ∀ a ∈ arguments, '\n' ∉ a) :
    '\n' ∉ Call.join arguments := by
  cases arguments with
  | nil => simp [Call.join]
  | cons a rest =>
      simp only [List.forall_mem_cons] at h
      simp only [Call.join, Call.joinRest, List.mem_append, List.mem_flatMap, List.mem_cons]
      rintro (first | ⟨b, member, comma | blank | later⟩)
      · exact h.1 first
      · exact absurd comma (by decide)
      · exact absurd blank (by decide)
      · exact h.2 b member later

mutual

/-- A tree is written on one line and in such a way that it can stand as an argument. -/
theorem isArgument_printed : ∀ {tree : Tree}, tree.Printable →
    '\n' ∉ tree.printed ∧ Text.IsTrimmed tree.printed ∧ Text.IsEnclosed tree.printed
  | atom s, h => ⟨h.oneLine, h.trimmed, h.enclosed⟩
  | call name arguments, ⟨named, _, all⟩ => by
      -- the arguments are enclosed, so they stay so between the brackets of the call
      have inside := isArgument_printedAll all
      have letters := fun c member => plain_of_isUpper (isUpper_of_isFunctionName named c member)
      rw [printed_call]
      refine ⟨?_, ⟨?_, ?_⟩, ?_⟩
      · have := oneLine_join fun a member => (inside a member).1
        have : '\n' ∉ name := fun member => (letters _ member).2.2 rfl
        simp_all
      · intro c first
        cases first
        decide
      · intro c last
        rw [← List.append_assoc, ← List.cons_append, List.getLast?_concat] at last
        cases last
        decide
      · have balanced := balanced_join fun a member => (inside a member).2.2
        refine Text.IsEnclosed.cons rfl (by decide) (balanced.enclosed.append_left ?_)
        exact fun c member => ⟨(letters c member).1, (letters c member).2.1⟩

theorem isArgument_printedAll : ∀ {trees : List Tree}, AllPrintable trees →
    ∀ s ∈ printedAll trees, '\n' ∉ s ∧ Text.IsTrimmed s ∧ Text.IsEnclosed s
  | [], _, s, member => absurd member (by simp [printedAll])
  | tree :: rest, ⟨first, all⟩, s, member => by
      rw [printedAll] at member
      rcases List.mem_cons.mp member with rfl | member
      · exact isArgument_printed first
      · exact isArgument_printedAll all s member

end

/-- Only the empty atom is written as the empty text. -/
theorem eq_of_printed_eq_nil {tree : Tree} (h : tree.printed = []) : tree = atom [] := by
  cases tree with
  | atom s =>
      rw [printed] at h
      rw [h]
  | call name arguments => exact absurd h (by simp [printed])

/-- The arguments of a written call are found where they were written. -/
theorem splitArguments_printed {name : List Char} {arguments : List Tree}
    (h : (call name arguments).Printable) :
    Call.splitArguments (Call.join (printedAll arguments)) = printedAll arguments := by
  obtain ⟨_, visible, all⟩ := h
  have each := isArgument_printedAll all
  refine Call.splitArguments_join (fun a member => (each a member).2.2)
    (fun a member => (each a member).2.1) (fun empty => visible ?_)
  cases arguments with
  | nil => exact absurd empty (by simp [printedAll])
  | cons tree rest =>
      cases rest with
      | nil =>
          -- a single argument written as nothing is the empty atom, which is excluded
          rw [printedAll, printedAll, List.cons.injEq] at empty
          rw [eq_of_printed_eq_nil empty.1]
      | cons second rest => exact absurd empty (by simp [printedAll])

/-- A text on one line between a name and the brackets of a call is read as its arguments, whatever
brackets it has itself. -/
theorem parse?_of_oneLine {name arguments : List Char} (named : IsFunctionName name)
    (oneLine : '\n' ∉ arguments) :
    Call.parse? (name ++ ('(' :: arguments ++ [')'])) = some ⟨name, arguments⟩ := by
  have upper := isUpper_of_isFunctionName named
  have bracket : ¬('('.isUpper = true) := by decide
  rw [Call.parse?, List.takeWhile_append_of_pos upper, List.dropWhile_append_of_pos upper,
    List.cons_append, List.takeWhile_cons_of_neg bracket, List.dropWhile_cons_of_neg bracket,
    List.append_nil]
  simp [named.1, oneLine]

/-- A written call has the shape of a call. -/
theorem parse?_printed {name : List Char} {arguments : List Tree}
    (h : (call name arguments).Printable) :
    Call.parse? (name ++ ('(' :: Call.join (printedAll arguments) ++ [')']))
      = some ⟨name, Call.join (printedAll arguments)⟩ := by
  obtain ⟨named, _, all⟩ := h
  exact parse?_of_oneLine named (oneLine_join fun a member => (isArgument_printedAll all a member).1)

mutual

/-- **Reading inverts printing.** -/
theorem parse_printed : ∀ {tree : Tree}, tree.Printable → parse tree.printed = tree.expression
  | atom s, h => parse_text h.noCall
  | call name arguments, h => by
      rw [printed_call, expression]
      cases found : Builtin.ofName? (String.ofList name) with
      | none => exact parse_unknown (parse?_printed h) found
      | some function =>
          rw [parse_call (parse?_printed h) found, splitArguments_printed h,
            parse_printedAll h.2.2]

theorem parse_printedAll : ∀ {trees : List Tree}, AllPrintable trees →
    (printedAll trees).map parse = expressions trees
  | [], _ => rfl
  | tree :: rest, ⟨first, all⟩ => by
      rw [printedAll, List.map_cons, parse_printed first, parse_printedAll all, expressions]

end

/-! ## Meaning -/

mutual

theorem value_expression (table : Variables) (data : Value) : ∀ tree : Tree,
    (Term.ofExpression table tree.expression).value data = tree.meaning table data
  | atom s => rfl
  | call name arguments => by
      rw [expression, meaning]
      cases Builtin.ofName? (String.ofList name) with
      | none => rfl
      | some function =>
          dsimp only
          rw [Term.ofExpression, Term.value, values_expressions table data arguments,
            Builtin.apply_eq_on]

theorem values_expressions (table : Variables) (data : Value) : ∀ trees : List Tree,
    Term.values data (Term.ofExpressions table (expressions trees)) = meanings table data trees
  | [] => rfl
  | tree :: rest => by
      rw [expressions, Term.ofExpressions, Term.values, value_expression table data tree,
        values_expressions table data rest, meanings]

end

end Tree

end Expression

/--
**Evaluating a printed expression gives what its tree means**, for all variables and all data.
-/
theorem evaluate_printed {tree : Expression.Tree} (h : tree.Printable) (table : Variables)
    (data : Value) :
    ((Value.string (String.ofList tree.printed)).evaluate .lenient table data).result
      = .ok (tree.meaning table data) := by
  rw [Value.evaluate, String.toList_ofList, Expression.Tree.parse_printed h,
    Expression.result_evaluate, Expression.Tree.value_expression]

/-- A call in a call, with empty arguments, one too many, and one with brackets of its own. -/
def Expression.Tree.nested : Tree :=
  .call "IF".toList [
    .atom "${x}".toList,
    .call "NOT".toList [.atom [], .atom "$${V} (y, z)".toList, .atom []],
    .call "FOO".toList [],
    .atom "extra".toList]

theorem evaluate_printed_nested :
    Expression.Tree.nested.Printable
      ∧ Expression.Tree.nested.printed
        = "=IF(${x}, =NOT(, $${V} (y, z), ), =FOO(), extra)".toList
      ∧ ((Value.string (String.ofList Expression.Tree.nested.printed)).evaluate .lenient
          (Dictionary.empty.put "V" (.string "=SUM(1, 2), )"))
          (.map [("x", .string "),=")])).result
        = .ok (.string "=SUM(1, 2), ) (y, z)") := by
  have atom {s : List Char} (h : Expression.IsAtom s) : (Expression.Tree.atom s).Printable := h
  have inner : (Expression.Tree.call "NOT".toList
      [.atom [], .atom "$${V} (y, z)".toList, .atom []]).Printable :=
    ⟨by decide, by simp, atom (by decide), atom (by decide), atom (by decide), trivial⟩
  have unknown : (Expression.Tree.call "FOO".toList []).Printable :=
    ⟨by decide, by simp, trivial⟩
  have printable : Expression.Tree.nested.Printable :=
    ⟨by decide, by simp, atom (by decide), inner, unknown, atom (by decide), trivial⟩
  refine ⟨printable, by decide, (evaluate_printed printable _ _).trans ?_⟩
  with_unfolding_all rfl

end XmlTemplate
