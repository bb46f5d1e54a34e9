import PreparedSql.From.Template
import PreparedSql.Ordering
import PreparedSql.Pagination

/-!
# Selections

A selection reads fields of the rows of a chain of tables. Its clauses follow each other in a fixed
order: tables, filter, grouping, ordering, window. The placeholders of the tables therefore come
before those of the filter, and those of the window come last.
-/

namespace PreparedSql

inductive Field where
  /-- A column, by name. -/
  | column (name : String)
  /-- SQL that is taken over as it is. -/
  | raw (sql : String)
  deriving DecidableEq, Repr

def Field.sql (ctx : Context) : Field → Except CompileError String
  | column name =>
    if Text.allBlank name then .error (.inStatement .blankField)
    else .ok (ctx.quotedPath name)
  | raw sql => .ok sql

/-- The SQL of the selected fields; without any, all columns are selected. -/
def fieldList (ctx : Context) (fields : List Field) : Except CompileError String :=
  if fields.isEmpty then .ok "*"
  else do return ", ".intercalate (← fields.mapM (Field.sql ctx))

/-- A selection of rows. -/
structure Select where
  /-- The selected fields; all columns if there are none. -/
  fields : List Field := []
  /-- The tables that are read. -/
  tables : List FromEntry
  /-- The condition that rows have to meet. -/
  filter : Option Condition := none
  /-- The columns that rows are grouped by. -/
  groupBy : List String := []
  /-- The columns that rows are sorted by. -/
  orderBy : List SortTerm := []
  /-- How many rows are kept. -/
  limit : Option Binding := none
  /-- How many rows are skipped. -/
  offset : Option Binding := none

namespace Select

/-- The selection without its window. -/
def unlimited (ctx : Context) (s : Select) : Except CompileError Template := do
  let tables ← fromTemplate ctx s.tables
  let fields ← fieldList ctx s.fields
  let filter ← whereSuffix ctx s.filter
  return Template.ofString ("SELECT " ++ fields ++ " FROM ") ++ tables ++ filter ++
    Template.ofString (groupByClause ctx s.groupBy ++ orderByClause ctx s.orderBy)

def template (ctx : Context) (s : Select) : Except CompileError Template := do
  return (window ctx s.limit s.offset).around (← s.unlimited ctx)

end Select

end PreparedSql
