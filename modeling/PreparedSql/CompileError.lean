/-!
# Why a statement does not compile

The causes are kept apart by the part of the statement that they lie in: its chain of tables, one of
its conditions, or the statement as a whole. The wording is in one place, `CompileError.message`.
-/

namespace PreparedSql

/-- What is wrong with a chain of tables. -/
inductive FromError where
  /-- The chain is empty. -/
  | noTables
  /-- The chain starts with a join to this table. -/
  | leadingJoin (table : String)
  /-- A table, an alias or a shared column has no name. -/
  | blankName
  /-- A join of this table by a shared column follows an entry without a name. -/
  | sharedColumnAfterRaw (table : String)
  /-- The condition of the join of this table says nothing. -/
  | emptyCondition (table : String)
  deriving DecidableEq, Repr

/-- What is wrong with a condition. -/
inductive ConditionError where
  /-- A test is applied to a column without a name. -/
  | blankColumn
  deriving DecidableEq, Repr

/-- What is wrong with a statement. -/
inductive StatementError where
  /-- A selected column has no name. -/
  | blankField
  /-- An insertion names no table. -/
  | insertWithoutTable
  /-- An insertion has no column or no row. -/
  | insertWithoutCells
  /-- A row, counted from zero, has more or fewer values than there are columns. -/
  | rowWidth (row values columns : Nat)
  /-- An update names no table or assigns nothing. -/
  | emptyUpdate
  /-- A deletion names no table. -/
  | deleteWithoutTable
  /-- A direction of sorting is neither of the two. -/
  | unknownDirection (keyword : String)
  deriving DecidableEq, Repr

/-- Why a statement does not compile. -/
inductive CompileError where
  | inFrom (cause : FromError)
  | inCondition (cause : ConditionError)
  | inStatement (cause : StatementError)
  deriving DecidableEq, Repr

def FromError.message : FromError → String
  | noTables => "no tables given"
  | leadingJoin table => "join on " ++ table ++ " has no preceding table"
  | blankName => "empty table name"
  | sharedColumnAfterRaw table => "USING join on " ++ table ++ " follows a raw FROM entry"
  | emptyCondition table => "join on " ++ table ++ " has an empty condition"

def ConditionError.message : ConditionError → String
  | blankColumn => "predicate on an empty column name"

def StatementError.message : StatementError → String
  | blankField => "empty field name"
  | insertWithoutTable => "INSERT without a table"
  | insertWithoutCells => "INSERT needs at least one column and one row"
  | rowWidth row values columns =>
    "row " ++ row.repr ++ " has " ++ values.repr ++ " values for " ++ columns.repr ++ " columns"
  | emptyUpdate => "UPDATE needs a table and at least one assignment"
  | deleteWithoutTable => "DELETE without a table"
  | unknownDirection keyword => "unknown sort direction: " ++ keyword

/-- The text of the error: the part of the statement and the cause. -/
def CompileError.message : CompileError → String
  | inFrom cause => "invalid FROM clause: " ++ cause.message
  | inCondition cause => "invalid condition: " ++ cause.message
  | inStatement cause => "invalid statement: " ++ cause.message

end PreparedSql
