import PreparedSql.Statement.Basic

/-!
# Building updates and deletions call by call

Before its first assignment an update is only the name of a table. The first assignment completes
it; assignments accumulate, and a filter replaces the one before. A deletion is complete from the
start, and a filter replaces the one before here too.
-/

namespace PreparedSql

/-! ## Updates -/

/-- How far an update is built. -/
inductive UpdateStage where
  /-- No assignment yet. -/
  | draft (table : String)
  /-- A complete update. -/
  | complete (statement : Update)

/-- A call that builds an update. -/
inductive UpdateCall where
  /-- Adds an assignment. -/
  | set (column : String) (operand : Operand)
  /-- Sets the filter. -/
  | filter (condition : Condition)

namespace UpdateStage

def start (table : String) : UpdateStage := draft table

/-- The stage after a call, if the call is available. -/
def call? : UpdateStage → UpdateCall → Option UpdateStage
  | draft table, .set column operand =>
    some (complete { table, assignments := [(column, operand)] })
  | draft _, .filter _ => none
  | complete s, .set column operand =>
    some (complete { s with assignments := s.assignments ++ [(column, operand)] })
  | complete s, .filter condition => some (complete { s with filter := some condition })

def statement? : UpdateStage → Option Update
  | draft _ => none
  | complete s => some s

def build? (ctx : Context) (stage : UpdateStage) :
    Option (Except CompileError (String × List Binding)) :=
  stage.statement?.map fun s ↦ (Statement.update s).build ctx

end UpdateStage

/-! ## Deletions -/

/-- A call that builds a deletion. -/
inductive DeleteCall where
  /-- Sets the filter. -/
  | filter (condition : Condition)

namespace Delete

def start (table : String) : Delete := { table }

def call (s : Delete) : DeleteCall → Delete
  | .filter condition => { s with filter := some condition }

/-- What a deletion is built to. -/
def build (ctx : Context) (s : Delete) : Except CompileError (String × List Binding) :=
  (Statement.delete s).build ctx

end Delete

end PreparedSql
