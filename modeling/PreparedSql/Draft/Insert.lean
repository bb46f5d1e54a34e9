import PreparedSql.Statement.Basic

/-!
# Building insertions call by call

Before its first row an insertion is a draft, whose columns can be set. The first row completes it;
after that only rows can be added.
-/

namespace PreparedSql

/-- An insertion before its first row. -/
structure InsertDraft where
  /-- The table that rows are added to. -/
  table : String
  /-- The columns that get values. -/
  columns : List String := []

/-- How far an insertion is built. -/
inductive InsertStage where
  /-- No row yet. -/
  | draft (draft : InsertDraft)
  /-- A complete insertion. -/
  | complete (statement : Insert)

/-- A call that builds an insertion. -/
inductive InsertCall where
  /-- Sets the columns. -/
  | columns (names : List String)
  /-- Adds the first row. -/
  | firstRow (row : List Binding)
  /-- Adds a further row. -/
  | furtherRow (row : List Binding)

namespace InsertStage

def start (table : String) : InsertStage := draft { table }

/-- The stage after a call, if the call is available. -/
def call? : InsertStage → InsertCall → Option InsertStage
  | draft d, .columns names => some (draft { d with columns := names })
  | draft d, .firstRow row => some (complete ⟨d.table, d.columns, [row]⟩)
  | draft _, .furtherRow _ => none
  | complete s, .furtherRow row => some (complete { s with rows := s.rows ++ [row] })
  | complete _, _ => none

def statement? : InsertStage → Option Insert
  | draft _ => none
  | complete s => some s

def build? (ctx : Context) (stage : InsertStage) :
    Option (Except CompileError (String × List Binding)) :=
  stage.statement?.map fun s ↦ (Statement.insert s).build ctx

end InsertStage

end PreparedSql
