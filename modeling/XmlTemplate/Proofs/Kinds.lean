import XmlTemplate.Proofs.Lookup
import XmlTemplate.Proofs.Operand
import XmlTemplate.Proofs.Passes

/-!
# The kinds of what expressions come to

Data have values of seven kinds. The text of an expression comes to one of four: nothing, a truth
value, a float or a string. A value that is looked up contributes only its text, arithmetic gives
floats, and a conditional hands on one of its arguments, which have been computed themselves. So
every argument that a builtin function receives is of these kinds too, at any depth of nesting
(`Expression.Receives.computed`).

Functions take their arguments as numbers and as conditions and compare them, and each of these
coercions also says what becomes of integers, lists and maps. No expression gets there: with any
other choice in these cases it would be evaluated in the same way (`Value.evaluateWith_eq`).
-/

namespace XmlTemplate

/-- The value is of a kind that can be computed: no integer, no list and no map. -/
def Value.IsComputed (v : Value) : Prop :=
  v.kind ∈ [.none, .bool, .float, .string]

/-! ## What functions receive -/

namespace Builtin

theorem computed_choice {arguments : List Value} (computed : ∀ v ∈ arguments, v.IsComputed)
    (i : Nat) : (choice arguments i).IsComputed := by
  rw [choice]
  cases found : arguments[i]? with
  | none => exact List.mem_cons_self
  | some v => exact computed v (List.mem_of_getElem? found)

/-- A function gives a float, a truth value or one of its arguments. -/
theorem computed_apply (f : Builtin) {arguments : List Value}
    (computed : ∀ v ∈ arguments, v.IsComputed) : (f.apply arguments).IsComputed := by
  have float (x : Float) : (Value.float x).IsComputed := by simp [Value.IsComputed, Value.kind]
  have bool (b : Bool) : (Value.bool b).IsComputed := by simp [Value.IsComputed, Value.kind]
  cases f with
  | sum | diff | prod | quot => exact float _
  | eq | lt | lte | gt | gte => exact bool _
  | ifThen | notThen =>
      show Value.IsComputed (if condition arguments 0 then _ else _)
      split
      · exact computed_choice computed _
      · exact computed_choice computed _

end Builtin

namespace Expression

/-- In the expression, a call of the function gets the values as its arguments: the expression is
this call, or it is a call with such an argument. Calls count even if the evaluation does not get to
them, since an argument before them fails. -/
inductive Receives (mode : Mode) (table : Variables) (data : Value) :
    Expression → Builtin → List Value → Prop where
  | here {function : Builtin} {arguments : List Expression} {values : List Value}
      (evaluated : (evaluateAll mode table data arguments).result = .ok values) :
      Receives mode table data (.call function arguments) function values
  | inside {outer function : Builtin} {arguments : List Expression} {argument : Expression}
      {values : List Value} (member : argument ∈ arguments)
      (received : Receives mode table data argument function values) :
      Receives mode table data (.call outer arguments) function values

section Computed

variable {mode : Mode} {table : Variables} {data : Value}

mutual

theorem computed_evaluate : ∀ {expression : Expression} {v : Value},
    (expression.evaluate mode table data).result = .ok v → v.IsComputed
  | .text s, v, h => by
      rw [evaluate] at h
      obtain ⟨text, -, ends⟩ := Run.result_bind_eq_ok h
      cases ends
      simp [Value.IsComputed, Value.kind]
  | .call function arguments, v, h => by
      rw [evaluate] at h
      obtain ⟨values, evaluated, h⟩ := Run.result_bind_eq_ok h
      have result : v = function.apply values := by
        dsimp only at h
        split at h
        · obtain ⟨_, -, ends⟩ := Run.result_bind_eq_ok h
          exact (Except.ok.inj ends).symm
        · exact (Except.ok.inj h).symm
      rw [result]
      exact function.computed_apply (computed_evaluateAll evaluated)
  | .unknown function, v, h => by
      rw [evaluate] at h
      obtain ⟨_, -, ends⟩ := Run.result_bind_eq_ok h
      cases ends
      exact List.mem_cons_self
  | .malformed body, v, h => by
      rw [evaluate] at h
      obtain ⟨_, -, ends⟩ := Run.result_bind_eq_ok h
      cases ends
      exact List.mem_cons_self

theorem computed_evaluateAll : ∀ {expressions : List Expression} {values : List Value},
    (evaluateAll mode table data expressions).result = .ok values → ∀ v ∈ values, v.IsComputed
  | [], values, h => by
      cases h
      intro v member
      exact absurd member List.not_mem_nil
  | expression :: rest, values, h => by
      obtain ⟨first, more, rfl, value, evaluated⟩ := evaluateAll_cons_eq_ok_iff.mp h
      exact List.forall_mem_cons.mpr ⟨computed_evaluate value, computed_evaluateAll evaluated⟩

end

/-- **No function receives an integer, a list or a map.** -/
theorem Receives.computed {expression : Expression} {function : Builtin} {values : List Value}
    (h : expression.Receives mode table data function values) : ∀ v ∈ values, v.IsComputed := by
  induction h with
  | here evaluated => exact computed_evaluateAll evaluated
  | inside member received ih => exact ih

end Computed

end Expression

/-! ## Other functions in place of the builtin ones -/

section With

variable (apply : Builtin → List Value → Value) (mode : Mode) (table : Variables) (data : Value)

namespace Expression

mutual

/-- The value of an expression if a function gives something else for its arguments. -/
def evaluateWith : Expression → Run Value
  | .text s => evaluate mode table data (.text s)
  | .call function arguments => do
    let values ← evaluateAllWith arguments
    if values.length ≠ function.arity then
      Run.degrade mode (.argumentCount function.name function.arity values.length)
    pure (apply function values)
  | .unknown function => evaluate mode table data (.unknown function)
  | .malformed body => evaluate mode table data (.malformed body)

/-- The values of the expressions, in order. -/
def evaluateAllWith : List Expression → Run (List Value)
  | [] => pure []
  | expression :: rest => do
    let value ← evaluateWith expression
    let values ← evaluateAllWith rest
    pure (value :: values)

end

variable {apply mode table data}

mutual

/-- What a function would give for arguments that it does not receive has no bearing. -/
theorem evaluateWith_congr : ∀ {expression : Expression},
    (∀ function values, expression.Receives mode table data function values →
      apply function values = function.apply values) →
    expression.evaluateWith apply mode table data = expression.evaluate mode table data
  | .text s, same => by rw [evaluateWith]
  | .call function arguments, same => by
      have all : evaluateAllWith apply mode table data arguments
          = evaluateAll mode table data arguments :=
        evaluateAllWith_congr fun argument member function values received =>
          same function values (.inside member received)
      rw [evaluateWith, evaluate, all]
      cases evaluated : (evaluateAll mode table data arguments).result with
      | ok values =>
          have equal : apply function values = function.apply values :=
            same function values (.here evaluated)
          rw [Run.bind_of_ok evaluated, Run.bind_of_ok evaluated, equal]
      | error e => rw [Run.bind_of_error evaluated, Run.bind_of_error evaluated]
  | .unknown function, same => by rw [evaluateWith]
  | .malformed body, same => by rw [evaluateWith]

theorem evaluateAllWith_congr : ∀ {expressions : List Expression},
    (∀ expression ∈ expressions, ∀ function values,
      expression.Receives mode table data function values →
      apply function values = function.apply values) →
    evaluateAllWith apply mode table data expressions = evaluateAll mode table data expressions
  | [], _ => by rw [evaluateAllWith, evaluateAll]
  | expression :: rest, same => by
      obtain ⟨first, more⟩ := List.forall_mem_cons.mp same
      rw [evaluateAllWith, evaluateAll, evaluateWith_congr first, evaluateAllWith_congr more]

end

end Expression

end With

/-- The value of what a template holds in place of an expression, with other functions. -/
def Value.evaluateWith (expression : Value) (apply : Builtin → List Value → Value) (mode : Mode)
    (table : Variables) (data : Value) : Run Value :=
  match expression with
  | .string s => (Expression.parse s.toList).evaluateWith apply mode table data
  | value => pure value

/-! ## Other coercions -/

/-- How a function takes an argument as a number and as a condition, and when it takes two for
equal. -/
structure Coercions where
  number : Value → Float
  truth : Value → Bool
  equal : Value → Value → Bool

namespace Coercions

/-- The coercions that the builtin functions have. -/
def standard : Coercions :=
  ⟨Value.toNumber, Value.isTruthy, Value.strictEq⟩

/-- Whether two arguments are equal; two missing ones are. -/
def same (c : Coercions) : Option Value → Option Value → Bool
  | some a, some b => c.equal a b
  | none, none => true
  | _, _ => false

/-- The result of a builtin function that coerces its arguments in this way. -/
def apply (c : Coercions) (f : Builtin) (arguments : List Value) : Value :=
  let number (i : Nat) : Float := (arguments[i]?.map c.number).getD Decimal.nan
  let condition (i : Nat) : Bool := (arguments[i]?.map c.truth).getD false
  let choice := Builtin.choice arguments
  match f with
  | .sum => .float (number 0 + number 1)
  | .diff => .float (number 0 - number 1)
  | .prod => .float (number 0 * number 1)
  | .quot => .float (number 0 / number 1)
  | .eq => .bool (c.same arguments[0]? arguments[1]?)
  | .lt => .bool (number 0 < number 1)
  | .lte => .bool (number 0 ≤ number 1)
  | .gt | .gte => .bool (number 1 < number 0)
  | .ifThen => if condition 0 then choice 1 else choice 2
  | .notThen => if condition 0 then choice 2 else choice 1

/-- The coercions are the standard ones wherever no integer, no list and no map is involved. -/
structure StandardOnComputed (c : Coercions) : Prop where
  number : ∀ v : Value, v.IsComputed → c.number v = v.toNumber
  truth : ∀ v : Value, v.IsComputed → c.truth v = v.isTruthy
  equal : ∀ v w : Value, v.IsComputed → w.IsComputed → c.equal v w = v.strictEq w

variable {c : Coercions} {arguments : List Value}

/-- With the standard coercions, every function is the builtin one, whatever its arguments. -/
theorem standard_apply (f : Builtin) (arguments : List Value) :
    standard.apply f arguments = f.apply arguments := by
  have number (i : Nat) :
      (arguments[i]?.map standard.number).getD Decimal.nan = Builtin.number arguments i := by
    rw [Builtin.number]
    cases arguments[i]? <;> rfl
  have condition (i : Nat) :
      (arguments[i]?.map standard.truth).getD false = Builtin.condition arguments i := by
    rw [Builtin.condition]
    cases arguments[i]? <;> rfl
  have equal : standard.same arguments[0]? arguments[1]?
      = Builtin.equal arguments[0]? arguments[1]? := by
    cases arguments[0]? <;> cases arguments[1]? <;> rfl
  cases f <;> simp only [apply, Builtin.apply, number, condition, equal]

/-- Functions of computed arguments use nothing else of the coercions. -/
theorem StandardOnComputed.apply_eq (h : c.StandardOnComputed) (f : Builtin)
    (computed : ∀ v ∈ arguments, v.IsComputed) : c.apply f arguments = f.apply arguments := by
  have found {i : Nat} {v : Value} (at_i : arguments[i]? = some v) : v.IsComputed :=
    computed v (List.mem_of_getElem? at_i)
  have number (i : Nat) : arguments[i]?.map c.number = arguments[i]?.map standard.number :=
    Option.map_congr fun v at_i => h.number v (found at_i)
  have condition (i : Nat) : arguments[i]?.map c.truth = arguments[i]?.map standard.truth :=
    Option.map_congr fun v at_i => h.truth v (found at_i)
  have equal : c.same arguments[0]? arguments[1]?
      = standard.same arguments[0]? arguments[1]? := by
    cases at_0 : arguments[0]? with
    | none => cases arguments[1]? <;> rfl
    | some v =>
        cases at_1 : arguments[1]? with
        | none => rfl
        | some w => exact h.equal v w (found at_0) (found at_1)
  rw [← standard_apply]
  cases f <;> simp only [apply, number, condition, equal]

end Coercions

/-- **What the coercions make of integers, lists and maps is out of reach of every expression.** -/
theorem Value.evaluateWith_eq {c : Coercions} (h : c.StandardOnComputed) (mode : Mode)
    (table : Variables) (data expression : Value) :
    expression.evaluateWith c.apply mode table data = expression.evaluate mode table data := by
  cases expression with
  | string s =>
      exact Expression.evaluateWith_congr fun function values received =>
        h.apply_eq function received.computed
  | null | bool | int | float | list | map => rfl

/-! ## Equality of placeholders -/

namespace Placeholder

/-- Without a placeholder, the pieces are the characters of the text. -/
theorem split_of_no_placeholder {opening text : List Char}
    (none : ∀ body, .placeholder body ∉ split opening text) :
    split opening text = text.map .char := by
  have chars : ∀ pieces : List Piece, (∀ body, .placeholder body ∉ pieces) →
      pieces = (join opening pieces).map .char := by
    intro pieces
    induction pieces with
    | nil => intro _; rfl
    | cons piece rest ih =>
        intro none
        have ih := ih fun body member => none body (List.mem_cons_of_mem _ member)
        cases piece with
        | char c => exact congrArg (Piece.char c :: ·) ih
        | placeholder body => exact absurd List.mem_cons_self (none body)
  have := chars _ none
  rwa [join_split] at this

end Placeholder

/-- The path makes a placeholder for data, in which there is none of a variable. -/
structure IsDataPath (path : List Char) : Prop where
  nonempty : path ≠ []
  closed : '}' ∉ path
  free : ∀ name, .placeholder name ∉
    Placeholder.split Placeholder.variableOpening (Placeholder.written Placeholder.dataOpening path)

/-- A placeholder of a variable takes two dollars. -/
theorem IsDataPath.of_no_dollar {path : List Char} (nonempty : path ≠ []) (closed : '}' ∉ path)
    (noDollar : '$' ∉ path) : IsDataPath path := by
  have count : (Placeholder.written Placeholder.dataOpening path).count '$' = 1 := by
    rw [Placeholder.written, List.count_append, List.count_append, List.count_eq_zero.mpr noDollar]
    rfl
  refine ⟨nonempty, closed, fun name member => ?_⟩
  have noVariable : ¬Placeholder.variableOpening
      <:+: Placeholder.written Placeholder.dataOpening path := by
    intro inside
    have two : (Placeholder.variableOpening).count '$' = 2 := by decide
    have := inside.sublist.count_le '$'
    omega
  rw [Placeholder.split_of_no_opening noVariable] at member
  obtain ⟨c, -, same⟩ := List.mem_map.mp member
  cases same

/-- The text that a placeholder with the path stands for. -/
def shownText (data : Value) (path : List Char) : List Char :=
  foundText (data.lookup? (Text.trim path))

theorem IsDataPath.result_substitute {path : List Char} (h : IsDataPath path) (table : Variables)
    (data : Value) :
    (substitute .lenient table data (Placeholder.written Placeholder.dataOpening path)).result
      = .ok (shownText data path) := by
  rw [result_substitute_of_known data fun name member => absurd member (h.free name),
    Placeholder.split_of_no_placeholder h.free, variablePass, Placeholder.fill_map_char, dataPass,
    split_written h.nonempty h.closed, Placeholder.fill, List.flatMap_cons, List.flatMap_nil,
    List.append_nil]
  rfl

/-- Two placeholders for data are equal if their texts are, whatever the kinds of their values. -/
theorem result_equal_placeholders {first second : List Char} (h : IsDataPath first)
    (h' : IsDataPath second) (table : Variables) (data : Value) :
    ((Expression.call .eq [.text (Placeholder.written Placeholder.dataOpening first),
        .text (Placeholder.written Placeholder.dataOpening second)]).evaluate
      .lenient table data).result
      = .ok (.bool (shownText data first == shownText data second)) := by
  have value {path : List Char} (h : IsDataPath path) :
      ((Expression.text (Placeholder.written Placeholder.dataOpening path)).evaluate
        .lenient table data).result = .ok (.string (String.ofList (shownText data path))) := by
    rw [Expression.evaluate, Run.bind_of_ok (h.result_substitute table data)]
    rfl
  have values := evaluateAll_cons_eq_ok_iff.mpr ⟨_, _, rfl, value h,
    evaluateAll_cons_eq_ok_iff.mpr ⟨_, [], rfl, value h', by rw [Expression.evaluateAll]; rfl⟩⟩
  rw [Expression.evaluate, Run.bind_of_ok values]
  have texts (a b : List Char) : (String.ofList a == String.ofList b) = (a == b) := by
    rw [Bool.eq_iff_iff, beq_iff_eq, beq_iff_eq, String.ofList_inj]
  exact congrArg (fun b => Except.ok (Value.bool b)) (texts _ _)

/--
**The text of an expression never comes to an integer, a list or a map**, for any variables and
data and in either mode, and no builtin function ever receives one, at any depth of calls. So two
placeholders for data are compared by their texts, and all that the coercions say about integers,
lists and maps could be said otherwise.
-/
theorem text_never_integer_list_or_map (mode : Mode) (table : Variables) (data : Value)
    (s : String) :
    (∀ v, ((Value.string s).evaluate mode table data).result = .ok v →
      v.kind ∈ [.none, .bool, .float, .string]) ∧
    (∀ function values,
      (Expression.parse s.toList).Receives mode table data function values →
      ∀ v ∈ values, v.kind ∈ [.none, .bool, .float, .string]) ∧
    (∀ first second, IsDataPath first → IsDataPath second →
      Expression.parse s.toList
        = .call .eq [.text (Placeholder.written Placeholder.dataOpening first),
          .text (Placeholder.written Placeholder.dataOpening second)] →
      ((Value.string s).evaluate .lenient table data).result
        = .ok (.bool (shownText data first == shownText data second)) ∧
      ∀ v, ((Value.string s).evaluate mode table data).result = .ok v →
        v = .bool (shownText data first == shownText data second)) ∧
    (∀ c : Coercions, c.StandardOnComputed → ∀ expression : Value,
      expression.evaluateWith c.apply mode table data = expression.evaluate mode table data) := by
  refine ⟨fun v evaluated => Expression.computed_evaluate evaluated,
    fun function values received => received.computed, ?_,
    fun c standard => Value.evaluateWith_eq standard mode table data⟩
  intro first second h h' read
  have lenient : ((Value.string s).evaluate .lenient table data).result
      = .ok (.bool (shownText data first == shownText data second)) := by
    rw [Value.evaluate, read]
    exact result_equal_placeholders h h' table data
  refine ⟨lenient, fun v evaluated => ?_⟩
  have same := (Value.result_lenient_of_ok evaluated).symm.trans lenient
  exact Except.ok.inj same

/-- A list, a number and its text. -/
def mixedData : Value :=
  .map [("l", .list [.int 2, .int 3]), ("n", .int 1), ("t", .string "1")]

/-- Coercions that take every integer, list and map for seven, for false and for equal. -/
def carelessCoercions : Coercions where
  number v := if v.kind ∈ [.none, .bool, .float, .string] then v.toNumber else 7
  truth v := if v.kind ∈ [.none, .bool, .float, .string] then v.isTruthy else false
  equal v w :=
    if v.kind ∈ [.none, .bool, .float, .string] ∧ w.kind ∈ [.none, .bool, .float, .string] then
      v.strictEq w
    else true

/-- A condition that compares an integer and a string, and a list as the result. -/
def mixedText : String :=
  "=IF(=EQ(${n}, ${t}), ${l}, x)"

/-- The condition compares texts, and the list comes out as its text. -/
theorem text_never_integer_list_or_map_mixed :
    ((Value.string mixedText).evaluate .lenient .empty mixedData).result = .ok (.string "2,3") ∧
      (Value.string "2,3").kind ∈ [.none, .bool, .float, .string] ∧
      (Expression.parse mixedText.toList).Receives .lenient .empty mixedData
        .eq [.string "1", .string "1"] ∧
      (∀ v ∈ [Value.string "1", .string "1"], v.kind ∈ [.none, .bool, .float, .string]) ∧
      IsDataPath ['n'] ∧ IsDataPath ['t'] ∧
      ((Value.string "=EQ(${n}, ${t})").evaluate .strict .empty mixedData).result
        = .ok (.bool true) ∧
      Value.bool true = .bool (shownText mixedData ['n'] == shownText mixedData ['t']) ∧
      carelessCoercions.StandardOnComputed ∧
      (Value.string mixedText).evaluateWith carelessCoercions.apply .lenient .empty mixedData
        = (Value.string mixedText).evaluate .lenient .empty mixedData := by
  have readEqual : Expression.parse "=EQ(${n}, ${t})".toList
      = .call .eq [.text "${n}".toList, .text "${t}".toList] := by
    have shape : Call.parse? "EQ(${n}, ${t})".toList = some ⟨"EQ".toList, "${n}, ${t}".toList⟩ := by
      decide
    have known : Builtin.ofName? (String.ofList "EQ".toList) = some .eq := by decide
    have arguments : Call.splitArguments "${n}, ${t}".toList = ["${n}".toList, "${t}".toList] := by
      decide
    refine (Expression.parse_call shape known).trans ?_
    rw [arguments, List.map_cons, List.map_cons, List.map_nil, Expression.parse_text (by decide),
      Expression.parse_text (by decide)]
  have readMixed : Expression.parse mixedText.toList
      = .call .ifThen [.call .eq [.text "${n}".toList, .text "${t}".toList], .text "${l}".toList,
        .text "x".toList] := by
    have shape : Call.parse? "IF(=EQ(${n}, ${t}), ${l}, x)".toList
        = some ⟨"IF".toList, "=EQ(${n}, ${t}), ${l}, x".toList⟩ := by decide
    have known : Builtin.ofName? (String.ofList "IF".toList) = some .ifThen := by decide
    have arguments : Call.splitArguments "=EQ(${n}, ${t}), ${l}, x".toList
        = ["=EQ(${n}, ${t})".toList, "${l}".toList, "x".toList] := by decide
    refine (Expression.parse_call shape known).trans ?_
    rw [arguments, List.map_cons, List.map_cons, List.map_cons, List.map_nil, readEqual,
      Expression.parse_text (by decide), Expression.parse_text (by decide)]
  have value : ((Value.string mixedText).evaluate .lenient .empty mixedData).result
      = .ok (.string "2,3") := by
    rw [Value.evaluate, readMixed]
    rfl
  have received : (Expression.parse mixedText.toList).Receives .lenient .empty mixedData
      .eq [.string "1", .string "1"] := by
    rw [readMixed]
    exact .inside List.mem_cons_self (.here rfl)
  have equal : ((Value.string "=EQ(${n}, ${t})").evaluate .strict .empty mixedData).result
      = .ok (.bool true) := by
    rw [Value.evaluate, readEqual]
    rfl
  have standard : carelessCoercions.StandardOnComputed :=
    ⟨fun v computed => if_pos computed, fun v computed => if_pos computed,
      fun v w computed computed' => if_pos ⟨computed, computed'⟩⟩
  obtain ⟨kind, arguments, -, coercions⟩ :=
    text_never_integer_list_or_map .lenient .empty mixedData mixedText
  obtain ⟨-, -, texts, -⟩ :=
    text_never_integer_list_or_map .strict .empty mixedData "=EQ(${n}, ${t})"
  have n : IsDataPath ['n'] := .of_no_dollar (by decide) (by decide) (by decide)
  have t : IsDataPath ['t'] := .of_no_dollar (by decide) (by decide) (by decide)
  exact ⟨value, kind _ value, received, arguments _ _ received, n, t, equal,
    (texts _ _ n t readEqual).2 _ equal, standard, coercions _ standard _⟩

end XmlTemplate
