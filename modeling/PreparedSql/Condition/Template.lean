import PreparedSql.CompileError
import PreparedSql.Condition.Basic
import PreparedSql.Context.Basic
import PreparedSql.Template

/-!
# The SQL of conditions

A group is written between parentheses, with its connective between the members that say something;
raw SQL is trimmed. A list of items must not be empty in SQL, so a test against an empty list is
written as a comparison of two numbers that is always false, or always true if the test is negated.

A condition on a column without a name does not compile, wherever in the tree it stands.
-/

namespace PreparedSql

def Operand.template (ctx : Context) : Operand → Template
  | placeholder b => Template.placeholder b
  | column name => Template.ofString (ctx.quotedPath name)
  | raw sql => Template.ofString sql

/-- The keyword of a test, behind `NOT` if the test is negated. -/
def negatable (negated : Bool) (keyword : String) : String :=
  if negated then "NOT " ++ keyword else keyword

/-- The SQL of a test, behind the quoted column. -/
def Test.template (ctx : Context) (column : String) : Test → Template
  | compare comparison operand =>
    Template.ofString (column ++ " " ++ comparison.operator ++ " ") ++ operand.template ctx
  | isIn negated [] => Template.ofString (if negated then "1=1" else "0=1")
  | isIn negated items =>
    Template.ofString (column ++ " " ++ negatable negated "IN" ++ " ( ") ++
      Template.join ", " (items.map (Operand.template ctx)) ++ Template.ofString " )"
  | between negated low high =>
    Template.ofString (column ++ " " ++ negatable negated "BETWEEN" ++ " ") ++ low.template ctx ++
      Template.ofString " AND " ++ high.template ctx
  | isNull negated =>
    Template.ofString (if negated then column ++ " IS NOT NULL" else column ++ " IS NULL")

def Connective.keyword : Connective → String
  | and => "AND"
  | or => "OR"

/-- Parts that say something, between parentheses; no parts give no text. -/
def Connective.template (connective : Connective) (parts : List Template) : Template :=
  if parts.isEmpty then []
  else
    Template.ofString "( " ++ Template.join (" " ++ connective.keyword ++ " ") parts ++
      Template.ofString " )"

namespace Condition

mutual

/-- The SQL of a condition; it is empty when the condition says nothing. -/
def template (ctx : Context) : Condition → Except CompileError Template
  | test column t =>
    if Text.allBlank column then .error (.inCondition .blankColumn)
    else .ok (t.template ctx (ctx.quotedPath column))
  | group connective members => do
    return connective.template (← memberTemplates ctx members)
  | raw sql => .ok (Template.ofString (Text.trim sql))
termination_by structural condition => condition

/-- The SQL of those members that say something. -/
def memberTemplates (ctx : Context) : List Condition → Except CompileError (List Template)
  | [] => .ok []
  | member :: rest => do
    let part ← template ctx member
    let parts ← memberTemplates ctx rest
    return if part.isEmpty then parts else part :: parts
termination_by structural members => members

end

/-- `WHERE` with the condition, or nothing if the condition says nothing. -/
def whereClause (ctx : Context) (condition : Condition) : Except CompileError Template := do
  let body ← condition.template ctx
  return if body.isEmpty then [] else Template.ofString "WHERE " ++ body

end Condition

/-- ` WHERE` with the filter of a statement, or nothing if there is none that says something. -/
def whereSuffix (ctx : Context) (filter : Option Condition) : Except CompileError Template :=
  match filter with
  | none => .ok []
  | some condition =>
    if condition.isEmpty then .ok []
    else do return Template.ofString " " ++ (← condition.whereClause ctx)

end PreparedSql
