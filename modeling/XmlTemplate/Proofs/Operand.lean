import XmlTemplate.Expression.Evaluate
import XmlTemplate.Proofs.Readback
import XmlTemplate.Proofs.Run
import XmlTemplate.Proofs.Scanning

/-!
# Numbers as operands

A number that is handed to a function through a placeholder goes through its text: the placeholder
is replaced by the text, and the function reads the text as a number again. As the text of a number
is read back as the number, the function gets the operand that it gets from a nested call with the
number as its result (`numbers_survive_text`).
-/

namespace XmlTemplate

open Placeholder

/-! ## Texts without placeholders -/

section Chars

variable (mode : Mode) (table : Variables) (data : Value)

theorem fillPieces_chars (text : List Char) :
    fillPieces mode data (text.map .char) = pure text := by
  induction text with
  | nil => rfl
  | cons c rest ih =>
      rw [List.map_cons, fillPieces, ih]
      rfl

theorem substituteData_of_no_opening {text : List Char} (h : ¬dataOpening <:+: text) :
    substituteData mode data text = pure text := by
  rw [substituteData, split_of_no_opening h, fillPieces_chars]

theorem substitutePieces_chars (waiting text : List Char) :
    substitutePieces mode table data waiting (text.map .char)
      = substituteData mode data (waiting.reverse ++ text) := by
  induction text generalizing waiting with
  | nil => rw [List.map_nil, substitutePieces, List.append_nil]
  | cons c rest ih =>
      rw [List.map_cons, substitutePieces, ih, List.reverse_cons, List.append_assoc,
        List.singleton_append]

end Chars

/-! ## Placeholders of numbers -/

/-- The text is a placeholder, and the value is what it stands for. -/
inductive LeadsTo (table : Variables) (data : Value) : List Char → Value → Prop
  | path {body : List Char} {v : Value} (nonempty : body ≠ []) (closed : '}' ∉ body)
      (free : ¬variableOpening <:+: written dataOpening body)
      (found : data.lookup? (Text.trim body) = some v) :
      LeadsTo table data (written dataOpening body) v
  | name {body : List Char} {v : Value} (nonempty : body ≠ []) (closed : '}' ∉ body)
      (found : table.get? (String.ofList body) = some v) :
      LeadsTo table data (written variableOpening body) v

/-- The value is a number. -/
def Value.IsNumber (v : Value) : Prop :=
  v.kind = .integer ∨ v.kind = .float

theorem Decimal.Numeral.dollar_not_mem {sign : SignMark} {n : Numeral} :
    '$' ∉ sign.text ++ n.text :=
  fun member => absurd (Numeral.mem_text member) (by decide)

theorem Value.IsNumber.dollar_not_mem {v : Value} (h : v.IsNumber) : '$' ∉ v.display.toList := by
  cases v with
  | int n =>
      obtain ⟨numeral, text, -⟩ := Decimal.spells_toDigits n.toInt.natAbs
      rw [display, Decimal.toList_toString, ← text]
      exact Decimal.Numeral.dollar_not_mem
  | float x =>
      rw [display]
      rcases Decimal.float_word_or_numeral x with word | ⟨sign, numeral, text⟩
      · have words : ∀ word ∈ ["NaN".toList, "Infinity".toList, "-Infinity".toList],
            '$' ∉ word := by decide
        exact words _ word
      · rw [← text]
        exact Decimal.Numeral.dollar_not_mem
  | null => simp [IsNumber, kind] at h
  | bool b => simp [IsNumber, kind] at h
  | string s => simp [IsNumber, kind] at h
  | list items => simp [IsNumber, kind] at h
  | map entries => simp [IsNumber, kind] at h

theorem not_dataOpening_infix {text : List Char} (h : '$' ∉ text) : ¬dataOpening <:+: text :=
  fun inside => h (inside.subset List.mem_cons_self)

theorem split_written {opening body : List Char} (nonempty : body ≠ []) (closed : '}' ∉ body) :
    split opening (written opening body) = [.placeholder body] := by
  have pieces : split opening (written opening body ++ [])
      = .placeholder body :: split opening [] := split_written_append nonempty closed
  rwa [List.append_nil] at pieces

theorem evaluate_placeholder {mode : Mode} {table : Variables} {data : Value} {text : List Char}
    {v : Value} (leads : LeadsTo table data text v) (number : v.IsNumber) :
    (Expression.parse text).evaluate mode table data = pure (.string v.display) := by
  have plain := not_dataOpening_infix number.dollar_not_mem
  suffices substituted : substitute mode table data text = pure v.display.toList by
    have noCall : text.head? ≠ some '=' := by
      cases leads with
      | path => simp [written, dataOpening]
      | name => simp [written, variableOpening]
    rw [Expression.parse_text noCall, Expression.evaluate, substituted, pure_bind,
      String.ofList_toList]
  rw [substitute]
  cases leads with
  | path nonempty closed free found =>
      have single : v.kind ≠ .list ∧ v.kind ≠ .map := by
        rcases number with kind | kind <;> rw [kind] <;> decide
      rw [split_of_no_opening free, substitutePieces_chars, List.reverse_nil, List.nil_append,
        substituteData, split_written nonempty closed, fillPieces, dataText, found]
      dsimp only
      rw [if_neg (not_or.mpr single)]
      exact congrArg pure (List.append_nil _)
  | name nonempty closed found =>
      rw [split_written nonempty closed, substitutePieces, found]
      dsimp only
      rw [List.append_nil, substitutePieces, List.reverse_reverse,
        substituteData_of_no_opening mode data plain]

/-! ## Operands -/

section Values

variable {mode : Mode} {table : Variables} {data : Value}

theorem evaluateAll_cons_eq_ok_iff {first : Expression} {rest : List Expression}
    {values : List Value} :
    (Expression.evaluateAll mode table data (first :: rest)).result = .ok values ↔
      ∃ v more, values = v :: more ∧ (first.evaluate mode table data).result = .ok v ∧
        (Expression.evaluateAll mode table data rest).result = .ok more := by
  rw [Expression.evaluateAll]
  simp only [Run.result_bind_eq_ok_iff, Run.result_pure, Except.ok.injEq]
  constructor
  · rintro ⟨v, value, more, values, rfl⟩
    exact ⟨v, more, rfl, value, values⟩
  · rintro ⟨v, more, rfl, value, values⟩
    exact ⟨v, value, more, values, rfl⟩

/-- One of several expressions can be exchanged for another that has a value. -/
theorem exists_values {inner : Expression} {front back : List Expression} {values : List Value}
    (h : (Expression.evaluateAll mode table data (front ++ inner :: back)).result = .ok values) :
    ∃ before v after, values = before ++ v :: after ∧ before.length = front.length ∧
      (inner.evaluate mode table data).result = .ok v ∧
      ∀ (other : Expression) (w : Value), (other.evaluate mode table data).result = .ok w →
        (Expression.evaluateAll mode table data (front ++ other :: back)).result
          = .ok (before ++ w :: after) := by
  induction front generalizing values with
  | nil =>
      obtain ⟨v, after, rfl, value, rest⟩ := evaluateAll_cons_eq_ok_iff.mp h
      exact ⟨[], v, after, rfl, rfl, value, fun other w found =>
        evaluateAll_cons_eq_ok_iff.mpr ⟨w, after, rfl, found, rest⟩⟩
  | cons first front ih =>
      obtain ⟨x, more, rfl, value, rest⟩ := evaluateAll_cons_eq_ok_iff.mp h
      obtain ⟨before, v, after, rfl, length, value', exchange⟩ := ih rest
      exact ⟨x :: before, v, after, rfl, congrArg (· + 1) length, value', fun other w found =>
        evaluateAll_cons_eq_ok_iff.mpr ⟨x, _, rfl, value, exchange other w found⟩⟩

end Values

theorem number_append_cons (before after : List Value) (v : Value) :
    Builtin.number (before ++ v :: after) before.length = v.toNumber := by
  rw [Builtin.number, List.getElem?_append_right le_rfl, Nat.sub_self]
  rfl

theorem getElem?_append_cons_of_ne {before after : List Value} {v w : Value} {i : Nat}
    (other : i ≠ before.length) :
    (before ++ w :: after)[i]? = (before ++ v :: after)[i]? := by
  rcases Nat.lt_or_gt_of_ne other with less | more
  · rw [List.getElem?_append_left less, List.getElem?_append_left less]
  · obtain ⟨behind, rfl⟩ := Nat.exists_eq_add_of_lt more
    have position : before.length + behind + 1 - before.length = behind + 1 := by omega
    rw [List.getElem?_append_right more.le, List.getElem?_append_right more.le, position]
    rfl

theorem toNumber_display {v : Value} (scalar : v.kind ∈ [.none, .integer, .float, .string]) :
    (Value.string v.display).toNumber = match v with
      | .float x => Decimal.unsignedZero x
      | v => v.toNumber := by
  cases v with
  | null => rfl
  | int n => exact Decimal.numberOfText_toString n.toInt
  | float x => exact Decimal.numberOfText_float x
  | string s => rfl
  | bool b => simp [Value.kind] at scalar
  | list items => simp [Value.kind] at scalar
  | map entries => simp [Value.kind] at scalar

theorem toNumber_display_of_isNumber {v : Value} (number : v.IsNumber) :
    (Value.string v.display).toNumber = Decimal.unsignedZero v.toNumber := by
  have scalar : v.kind ∈ [.none, .integer, .float, .string] := by
    rcases number with kind | kind <;> rw [kind] <;> decide
  rw [toNumber_display scalar]
  rcases v with _ | _ | n | x | _ | _ | _
  case int => exact (Decimal.unsignedZero_ofInt n.toInt).symm
  case float => rfl
  all_goals exact absurd number (by simp [Value.IsNumber, Value.kind])

/-- Casting the text of a scalar gives the number that casting the scalar gives, only without the
sign of a zero. So a function gets the same operand through a placeholder of a number as from a
nested call with the number as its result. -/
theorem numbers_survive_text (v : Value) (scalar : v.kind ∈ [.none, .integer, .float, .string]) :
    ((Value.string v.display).toNumber = match v with
      | .float x => Decimal.unsignedZero x
      | v => v.toNumber) ∧
    (v.IsNumber → ∀ (mode : Mode) (table : Variables) (data : Value) (text : List Char),
      LeadsTo table data text v →
      ∀ (inner : Expression) (front back : List Expression) (values : List Value),
        (inner.evaluate mode table data).result = .ok v →
        (Expression.evaluateAll mode table data (front ++ inner :: back)).result = .ok values →
        ∃ values', (Expression.evaluateAll mode table data
            (front ++ Expression.parse text :: back)).result = .ok values' ∧
          values'.length = values.length ∧
          Builtin.number values' front.length
            = Decimal.unsignedZero (Builtin.number values front.length) ∧
          ∀ i ≠ front.length, values'[i]? = values[i]?) := by
  refine ⟨toNumber_display scalar, fun number mode table data text leads inner front back values
    value h => ?_⟩
  obtain ⟨before, v', after, rfl, length, value', exchange⟩ := exists_values h
  obtain rfl : v = v' := Except.ok.inj (value.symm.trans value')
  have placeholder : ((Expression.parse text).evaluate mode table data).result
      = .ok (.string v.display) := by
    rw [evaluate_placeholder leads number]
    rfl
  refine ⟨_, exchange _ _ placeholder, by simp, ?_, ?_⟩
  · rw [← length, number_append_cons, number_append_cons, toNumber_display_of_isNumber number]
  · exact fun i other => getElem?_append_cons_of_ne (length ▸ other)

/-- The product of two texts, once as a nested call and once out of the data. -/
theorem numbers_survive_text_product :
    ∃ x : Float, (Value.float x).display = "-1.5e-7" ∧
      (Value.string "-1.5e-7").toNumber = Decimal.unsignedZero x ∧
      (Expression.evaluateAll .strict .empty (.map [("x", .float x)])
        [.text ['1'], .call .prod [.text "-3".toList, .text "5e-8".toList]]).result
        = .ok [.string "1", .float x] ∧
      ∃ values, (Expression.evaluateAll .strict .empty (.map [("x", .float x)])
        [.text ['1'], Expression.parse "${ x }".toList]).result = .ok values ∧
        Builtin.number values 1 = Decimal.unsignedZero x := by
  let x := Value.numberOfText "-3".toList * Value.numberOfText "5e-8".toList
  have display : (Value.float x).display = "-1.5e-7" := by decide
  have leads : LeadsTo .empty (.map [("x", .float x)]) (written dataOpening [' ', 'x', ' '])
      (.float x) := .path (by decide) (by decide) (by decide) rfl
  have nested : (Expression.evaluateAll .strict .empty (.map [("x", .float x)])
      ([.text ['1']] ++ .call .prod [.text "-3".toList, .text "5e-8".toList] :: [])).result
      = .ok [.string "1", .float x] := rfl
  obtain ⟨survives, operands⟩ := numbers_survive_text (.float x) (by decide)
  obtain ⟨values, found, -, operand, -⟩ :=
    operands (.inr rfl) .strict .empty _ _ leads _ _ _ _ rfl nested
  rw [display] at survives
  exact ⟨x, display, survives, nested, values, found, operand⟩

end XmlTemplate
