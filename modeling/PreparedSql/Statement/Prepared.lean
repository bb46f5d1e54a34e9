import PreparedSql.Statement.Basic

/-!
# Prepared statements

A prepared statement keeps a statement together with the context that it is compiled for. It is
compiled when a first answer needs the query, and the outcome, query or error, is kept for all later
answers.

What a prepared statement can be asked is listed as a type, so that a history of requests is a list
and the state after it is a fold.

## Main definitions

* `Prepared.compiled`: the kept outcome, compiling if there is none yet.
* `Prepared.answer`, `Prepared.run`: the answer to one request and to a history of them.
-/

namespace PreparedSql

/-- A statement with its context and, once it was needed, the outcome of compiling it. -/
structure Prepared where
  /-- The statement. -/
  statement : Statement
  /-- The context that it is compiled for. -/
  context : Context
  /-- The outcome of compiling, once there is one. -/
  outcome : Option (Except CompileError Query) := none

/-- Why a prepared statement cannot be executed. -/
inductive ExecuteError where
  /-- It does not compile. -/
  | compile (cause : CompileError)
  /-- A placeholder has no value. -/
  | resolve (cause : ResolutionError)
  deriving DecidableEq, Repr

/-- The text of the error is that of its cause. -/
def ExecuteError.message : ExecuteError → String
  | compile cause => cause.message
  | resolve cause => cause.message

/-- What a prepared statement can be asked. -/
inductive Request where
  | kind
  | context
  | statement
  | sql
  | slots
  | tokens
  | compiled
  /-- The values of the placeholders, from a source of named values. -/
  | resolve (source : String → Option Value)

/-- What a prepared statement answers. -/
inductive Answer where
  | kind (keyword : String)
  | context (context : Context)
  | statement (statement : Statement)
  | sql (text : Except CompileError String)
  | slots (names : Except CompileError (List (Option String)))
  | tokens (names : Except CompileError (List String))
  | compiled (query : Except CompileError Query)
  | resolved (values : Except ExecuteError (List Value))

namespace Prepared

def new (context : Context) (statement : Statement) : Prepared := { statement, context }

/-- The kept outcome of compiling; the first time, the statement is compiled and the outcome
kept. -/
def compiled (p : Prepared) : Except CompileError Query × Prepared :=
  match p.outcome with
  | some outcome => (outcome, p)
  | none =>
    let outcome := p.statement.compile p.context
    (outcome, { p with outcome := some outcome })

/-- The values of the placeholders of an outcome; an error of compiling comes first. -/
def resolveOutcome (source : String → Option Value) :
    Except CompileError Query → Except ExecuteError (List Value)
  | .error cause => .error (.compile cause)
  | .ok query => (query.resolve source).mapError .resolve

/-- The answer to a request, and the prepared statement after it. -/
def answer (p : Prepared) : Request → Answer × Prepared
  | .kind => (.kind p.statement.kind, p)
  | .context => (.context p.context, p)
  | .statement => (.statement p.statement, p)
  | .sql =>
    let (outcome, p) := p.compiled
    (.sql (outcome.map Query.sql), p)
  | .slots =>
    let (outcome, p) := p.compiled
    (.slots (outcome.map Query.slots), p)
  | .tokens =>
    let (outcome, p) := p.compiled
    (.tokens (outcome.map Query.tokens), p)
  | .compiled =>
    let (outcome, p) := p.compiled
    (.compiled outcome, p)
  | .resolve source =>
    let (outcome, p) := p.compiled
    (.resolved (resolveOutcome source outcome), p)

/-- The answers to a history of requests, and the prepared statement after it. -/
def run (p : Prepared) : List Request → List Answer × Prepared
  | [] => ([], p)
  | request :: rest =>
    let (first, p) := p.answer request
    let (answers, p) := p.run rest
    (first :: answers, p)

end Prepared

end PreparedSql
