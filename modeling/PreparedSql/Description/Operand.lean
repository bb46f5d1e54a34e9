import PreparedSql.Condition.Basic
import PreparedSql.Description.Error
import PreparedSql.Value.Json

/-!
# Operands in descriptions

A scalar stands for itself. The three objects with one member named `$token`, `$col` or `$raw` stand
for a token, another column and raw SQL; where only a value can be bound, the token is the only one
of them.
-/

namespace PreparedSql

/-- The string that a document is; `what` names it in the message. -/
def requireText (what : String) : Json → Except DescriptionError String
  | .text s => .ok s
  | other => .error (.textKind what other)

/-- What a document binds: a scalar or a token. -/
def Binding.ofJson : Json → Except DescriptionError Binding
  | .null => .ok (.value .null)
  | .bool b => .ok (.value (.bool b))
  | .integer n => .ok (.value (.ofInteger n))
  | .double d => .ok (.value (.float d))
  | .text s => .ok (.value (.text s))
  | .object [("$token", name)] => do return .token (← requireText "$token" name)
  | other => .error (.bindingKind other)

/-- The operand that a document stands for. -/
def Operand.ofJson : Json → Except DescriptionError Operand
  | .object [("$col", name)] => do return .column (← requireText "$col" name)
  | .object [("$raw", sql)] => do return .raw (← requireText "$raw" sql)
  | document => do return .placeholder (← Binding.ofJson document)

/-- Whether the members of an object make it an operand. -/
def isOperandObject : List (String × Json) → Bool
  | [(key, _)] => key == "$token" || key == "$col" || key == "$raw"
  | _ => false

/-- A limit or an offset: an integer or a token. -/
def Binding.countOfJson (what : String) (document : Json) : Except DescriptionError Binding := do
  match ← Binding.ofJson document with
  | .token name => return .token name
  | .value (.int n) => return .value (.int n)
  | .value other => .error (.countKind what other)

end PreparedSql
