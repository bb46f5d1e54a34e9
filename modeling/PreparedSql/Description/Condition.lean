import PreparedSql.Description.Operand

/-!
# Conditions in descriptions

An object requires all of its members, an array any of its items, and a string is raw SQL. The
member of an object is a column with what is asked of it, or `$and` or `$or` with a list of
conditions.

What is asked of a column is a value that it equals, `null` if it has none, a list of values that it
is one of, or an object whose members are operators with their operands, all of which are required.
-/

namespace PreparedSql

/-- The test that an operator and its operand stand for. The operator may be in any letter case and
have white space around it. -/
def Test.ofJson (column operator : String) (operand : Json) : Except DescriptionError Test :=
  let name := Text.lower (Text.trim operator)
  match name, operand with
  | "is", .null => .ok (.isNull false)
  | "is not", .null => .ok (.isNull true)
  | "in", .array items => do return .isIn false (← items.mapM Operand.ofJson)
  | "not in", .array items => do return .isIn true (← items.mapM Operand.ofJson)
  | "between", .array [low, high] => do
    return .between false (← Operand.ofJson low) (← Operand.ofJson high)
  | "not between", .array [low, high] => do
    return .between true (← Operand.ofJson low) (← Operand.ofJson high)
  | _, _ =>
    match Comparison.ofName? name with
    | some comparison => do return .compare comparison (← Operand.ofJson operand)
    | none => .error (.operator name column operand)

namespace Condition

/-- Several tests of one column, all of which are required; a single one stands alone. -/
def ofTests (column : String) : List Test → Except DescriptionError Condition
  | [] => .error (.noOperator column)
  | [t] => .ok (.test column t)
  | tests => .ok (all (tests.map (test column)))

/-- What is asked of a column. -/
def columnOfJson (column : String) : Json → Except DescriptionError Condition
  | .null => .ok (.test column (.isNull false))
  | .array items => do return .test column (.isIn false (← items.mapM Operand.ofJson))
  | .object members =>
    if isOperandObject members then do
      return .test column (.compare .equal (← Operand.ofJson (.object members)))
    else do
      let tests ← members.mapM fun (operator, operand) ↦ Test.ofJson column operator operand
      ofTests column tests
  | scalar => do return .test column (.compare .equal (← Operand.ofJson scalar))

mutual

/-- The condition that a document stands for. -/
def ofJson : Json → Except DescriptionError Condition
  | .object members => do return all (← membersOfJson members)
  | .array items => do return any (← itemsOfJson items)
  | .text sql => .ok (raw sql)
  | other => .error (.conditionKind other)
termination_by structural document => document

def itemsOfJson : List Json → Except DescriptionError (List Condition)
  | [] => .ok []
  | item :: rest => do
    let first ← ofJson item
    return first :: (← itemsOfJson rest)
termination_by structural items => items

def connectedOfJson (key : String) : Json → Except DescriptionError (List Condition)
  | .array items => itemsOfJson items
  | other => .error (.connectiveKind key other)
termination_by structural document => document

/-- The conditions that the members of an object stand for. -/
def membersOfJson : List (String × Json) → Except DescriptionError (List Condition)
  | [] => .ok []
  | (key, document) :: rest => do
    let first ←
      if key = "$and" then (connectedOfJson key document).map all
      else if key = "$or" then (connectedOfJson key document).map any
      else columnOfJson key document
    return first :: (← membersOfJson rest)
termination_by structural members => members

end

end Condition

end PreparedSql
