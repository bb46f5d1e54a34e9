import PreparedSql.Condition.Basic

/-!
# Chains of tables

A query reads from a chain of entries. A table, by name and perhaps under an alias, or raw SQL
starts the chain or is listed beside what precedes it; a join attaches a table to the entry right
before it, either by a condition or by a column that both share.

Later entries refer to an entry by its exposed name: the alias if it has one, else its name.
-/

namespace PreparedSql

/-- A table by name, perhaps under an alias. -/
structure TableName where
  /-- The name of the table. -/
  name : String
  /-- The alias. -/
  aliasName : Option String := none
  deriving DecidableEq, Repr

/-- The name that later entries use: the alias if there is one. -/
def TableName.exposedName (table : TableName) : String := table.aliasName.getD table.name

/-- Whether rows of the entry before a join are kept that pair with no row of the joined table. -/
inductive JoinKind where
  | inner
  | left
  deriving DecidableEq, Repr

/-- Which rows a join pairs. -/
inductive JoinMatch where
  /-- Those for which a condition holds. -/
  | onCondition (condition : Condition)
  /-- Those that agree in a column of this name. -/
  | shared (column : String)

/-- A table that is joined to the entry before it. -/
structure Join where
  /-- The joined table. -/
  table : TableName
  /-- The kind of the join. -/
  kind : JoinKind := .inner
  /-- Which rows it pairs. -/
  rows : JoinMatch

/-- An entry of a chain of tables. -/
inductive FromEntry where
  /-- A table, listed beside what precedes it. -/
  | table (table : TableName)
  /-- SQL that is taken over as it is, listed beside what precedes it. -/
  | raw (sql : String)
  /-- A table joined to the entry before it. -/
  | join (join : Join)

def FromEntry.exposedName : FromEntry → String
  | table t => t.exposedName
  | raw sql => sql
  | join j => j.table.exposedName

end PreparedSql
