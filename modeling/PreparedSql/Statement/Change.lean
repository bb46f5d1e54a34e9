import PreparedSql.Condition.Template

/-!
# Updates and deletions

An update assigns to columns of those rows of a table that meet a condition. The placeholders of the
assignments come before those of the condition. A deletion removes the rows that meet a condition,
and all rows if there is none that says anything.
-/

namespace PreparedSql

/-! ## Updates -/

/-- An update of rows. -/
structure Update where
  /-- The table whose rows change. -/
  table : String
  /-- The columns that change and what they are set to. -/
  assignments : List (String × Operand)
  /-- The condition that rows have to meet. -/
  filter : Option Condition := none

namespace Update

def assignmentTemplate (ctx : Context) (assignment : String × Operand) : Template :=
  Template.ofString (ctx.quotedPath assignment.1 ++ " = ") ++ assignment.2.template ctx

def template (ctx : Context) (s : Update) : Except CompileError Template :=
  if Text.allBlank s.table || s.assignments.isEmpty then .error (.inStatement .emptyUpdate)
  else do
    let filter ← whereSuffix ctx s.filter
    return Template.ofString ("UPDATE " ++ ctx.quotedPath s.table ++ " SET ") ++
      Template.join ", " (s.assignments.map (assignmentTemplate ctx)) ++ filter

end Update

/-! ## Deletions -/

/-- A deletion of rows. -/
structure Delete where
  /-- The table that rows are removed from. -/
  table : String
  /-- The condition that rows have to meet. -/
  filter : Option Condition := none

def Delete.template (ctx : Context) (s : Delete) : Except CompileError Template :=
  if Text.allBlank s.table then .error (.inStatement .deleteWithoutTable)
  else do
    let filter ← whereSuffix ctx s.filter
    return Template.ofString ("DELETE FROM " ++ ctx.quotedPath s.table) ++ filter

end PreparedSql
