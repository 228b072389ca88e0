import XmlTemplate.Builtin
import XmlTemplate.Expression.Call

/-!
# Expressions

What the text of an expression means before any variable or data is known: a text that starts with
`=` is a call, any other is a text with placeholders. Arguments of a call are expressions again.
-/

namespace XmlTemplate

/-- An expression. -/
inductive Expression where
  /-- A text with placeholders. -/
  | text (s : List Char)
  | call (function : Builtin) (arguments : List Expression)
  /-- A call of a function that does not exist. -/
  | unknown (function : List Char)
  /-- What follows `=` and is no call. -/
  | malformed (body : List Char)

namespace Expression

/-- Reads the text of an expression. -/
def parse : List Char → Expression
  | '=' :: body =>
    match h : Call.parse? body with
    | none => .malformed body
    | some shape =>
      have := Call.length_arguments_lt h
      match Builtin.ofName? (String.ofList shape.name) with
      | none => .unknown shape.name
      | some function =>
        .call function ((Call.splitArguments shape.arguments).attach.map fun argument =>
          parse argument.val)
  | s => .text s
termination_by s => s.length
decreasing_by
  have := Call.length_le_of_mem_splitArguments argument.property
  simp only [List.length_cons]
  omega

/-- A text without a leading `=` is taken as it is. -/
theorem parse_text {s : List Char} (h : s.head? ≠ some '=') : parse s = .text s := by
  unfold parse
  split
  · simp at h
  · rfl

theorem parse_malformed {body : List Char} (h : Call.parse? body = none) :
    parse ('=' :: body) = .malformed body := by
  rw [parse]
  split
  · rfl
  · simp_all

theorem parse_unknown {body : List Char} {shape : Call} (h : Call.parse? body = some shape)
    (hname : Builtin.ofName? (String.ofList shape.name) = none) :
    parse ('=' :: body) = .unknown shape.name := by
  rw [parse]
  split
  · simp_all
  · rename_i read hread
    rw [h] at hread
    cases hread
    simp [hname]

/-- The arguments of a call are read one by one. -/
theorem parse_call {body : List Char} {shape : Call} {function : Builtin}
    (h : Call.parse? body = some shape)
    (hname : Builtin.ofName? (String.ofList shape.name) = some function) :
    parse ('=' :: body) =
      .call function ((Call.splitArguments shape.arguments).map parse) := by
  rw [parse]
  split
  · simp_all
  · rename_i read hread
    rw [h] at hread
    cases hread
    simp [hname]

end Expression

end XmlTemplate
