import PreparedSql.CompileError
import PreparedSql.Context.Basic
import PreparedSql.Template
import PreparedSql.Text.Blank

/-!
# Insertions

An insertion adds rows to a table, each with one value for every listed column. The placeholders
follow the rows and, within a row, the columns.
-/

namespace PreparedSql

/-- An insertion of rows. -/
structure Insert where
  /-- The table that rows are added to. -/
  table : String
  /-- The columns that get values. -/
  columns : List String
  /-- The rows. -/
  rows : List (List Binding)
  deriving DecidableEq, Repr

namespace Insert

def rowTemplate (row : List Binding) : Template :=
  Template.ofString "( " ++ Template.join ", " (row.map Template.placeholder) ++
    Template.ofString " )"

/-- The SQL of the rows from a position on, if each has `width` values. -/
def rowTemplates (width position : Nat) : List (List Binding) → Except CompileError (List Template)
  | [] => .ok []
  | row :: rest =>
    if row.length ≠ width then .error (.inStatement (.rowWidth position row.length width))
    else do return rowTemplate row :: (← rowTemplates width (position + 1) rest)

def template (ctx : Context) (s : Insert) : Except CompileError Template :=
  if Text.allBlank s.table then .error (.inStatement .insertWithoutTable)
  else if s.columns.isEmpty || s.rows.isEmpty then .error (.inStatement .insertWithoutCells)
  else do
    let rows ← rowTemplates s.columns.length 0 s.rows
    return Template.ofString ("INSERT INTO " ++ ctx.quotedPath s.table ++ " ( " ++
      ", ".intercalate (s.columns.map ctx.quotedPath) ++ " ) VALUES ") ++
      Template.join ", " rows

end Insert

end PreparedSql
