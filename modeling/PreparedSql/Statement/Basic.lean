import PreparedSql.Query
import PreparedSql.Statement.Change
import PreparedSql.Statement.Insert
import PreparedSql.Statement.Select

/-!
# Statements

A statement is one of four kinds. Compiling it for a context gives a template, and with it a query,
or the first error that is met.
-/

namespace PreparedSql

/-- A statement. -/
inductive Statement where
  | select (statement : Select)
  | insert (statement : Insert)
  | update (statement : Update)
  | delete (statement : Delete)

namespace Statement

def kind : Statement → String
  | select _ => "SELECT"
  | insert _ => "INSERT"
  | update _ => "UPDATE"
  | delete _ => "DELETE"

def template (ctx : Context) : Statement → Except CompileError Template
  | select s => s.template ctx
  | insert s => s.template ctx
  | update s => s.template ctx
  | delete s => s.template ctx

/-- The query that a statement compiles to. -/
def compile (ctx : Context) (s : Statement) : Except CompileError Query := do
  return .ofTemplate (← s.template ctx)

theorem compile_eq_ok_iff {ctx : Context} {s : Statement} {q : Query} :
    s.compile ctx = .ok q ↔ ∃ t, s.template ctx = .ok t ∧ Query.ofTemplate t = q := by
  rw [compile]
  cases s.template ctx with
  | ok t =>
    constructor
    · intro h
      exact ⟨t, rfl, Except.ok.inj h⟩
    · rintro ⟨u, same, h⟩
      rw [Except.ok.inj same]
      exact congrArg Except.ok h
  | error e => exact iff_of_false nofun fun ⟨_, h, _⟩ ↦ nomatch h

/-- What a statement is built to: the text of its query and what the placeholders are bound to. -/
def build (ctx : Context) (s : Statement) : Except CompileError (String × List Binding) := do
  let q ← s.compile ctx
  return (q.sql, q.bindings)

end Statement

end PreparedSql
