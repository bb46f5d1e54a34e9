import PreparedSql.CompileError
import PreparedSql.Context.Basic
import PreparedSql.Text.Blank

/-!
# Grouping and ordering

The clauses that follow the conditions of a query: which columns its rows are grouped by and how
they are sorted. Both are text over quoted names and hold no placeholder, and an empty list leaves
its clause out.
-/

namespace PreparedSql

/-- A direction of sorting. -/
inductive Direction where
  | ascending
  | descending
  deriving DecidableEq, Repr

namespace Direction

def keyword : Direction → String
  | ascending => "ASC"
  | descending => "DESC"

/-- The direction with a given keyword, in any letter case and with white space around it. -/
def ofKeyword (s : String) : Except CompileError Direction :=
  match Text.lower (Text.trim s) with
  | "asc" => .ok ascending
  | "desc" => .ok descending
  | _ => .error (.inStatement (.unknownDirection s))

end Direction

/-- A column that rows are sorted by. -/
structure SortTerm where
  /-- The name of the column. -/
  column : String
  /-- The direction; the database chooses one if none is given. -/
  direction : Option Direction
  deriving DecidableEq, Repr

/-- The quoted column, with its direction if it has one. -/
def SortTerm.sql (ctx : Context) (term : SortTerm) : String :=
  match term.direction with
  | none => ctx.quotedPath term.column
  | some direction => ctx.quotedPath term.column ++ " " ++ direction.keyword

/-- ` GROUP BY` with the quoted columns, or nothing if there are none. -/
def groupByClause (ctx : Context) (columns : List String) : String :=
  if columns.isEmpty then ""
  else " GROUP BY " ++ ", ".intercalate (columns.map ctx.quotedPath)

/-- ` ORDER BY` with the terms, or nothing if there are none. -/
def orderByClause (ctx : Context) (terms : List SortTerm) : String :=
  if terms.isEmpty then ""
  else " ORDER BY " ++ ", ".intercalate (terms.map (SortTerm.sql ctx))

end PreparedSql
