import PreparedSql.Template
import Std.Data.HashMap
import Std.Data.TreeMap

/-!
# Compiled queries and their values

A compiled query is SQL text and the bindings of its placeholders, in the order of the text.
Executing it needs one value per placeholder; resolving the query takes them from a source of named
values, so that one query serves any number of executions.

Strict resolution refuses a token without a value and names the first one. Lenient resolution puts
`NULL` there and never fails.
-/

namespace PreparedSql

/-! ## Sources of named values -/

/-- A collection in which a value is looked up by name. -/
class NamedValues (σ : Type) where
  /-- The value with a given name. -/
  valueOf? (source : σ) (name : String) : Option Value

/-- A list of named values; the first of several with one name counts. -/
instance : NamedValues (List (String × Value)) where
  valueOf? source name := source.lookup name

/-- A fixed number of named values; the first of several with one name counts. -/
instance {n : Nat} : NamedValues (Vector (String × Value) n) where
  valueOf? source name := source.toList.lookup name

/-- Values under hashed names. -/
instance : NamedValues (Std.HashMap String Value) where
  valueOf? source name := source[name]?

/-- Values under ordered names. -/
instance : NamedValues (Std.TreeMap String Value) where
  valueOf? source name := source[name]?

/-- Values given by a function. -/
instance : NamedValues (String → Option Value) where
  valueOf? source name := source name

/-! ## Queries -/

/-- Why a query cannot be resolved. -/
inductive ResolutionError where
  /-- A token has no value. -/
  | missingValue (name : String)
  deriving DecidableEq, Repr

def ResolutionError.message : ResolutionError → String
  | .missingValue name => "no value supplied for token '" ++ name ++ "'"

/-- SQL text and the bindings of its placeholders. -/
structure Query where
  /-- The text, with a `?` for every placeholder. -/
  sql : String
  /-- The bindings, in the order of the placeholders. -/
  bindings : List Binding
  deriving DecidableEq, Repr

namespace Query

def ofTemplate (t : Template) : Query := ⟨t.text, t.bindings⟩

def arity (q : Query) : Nat := q.bindings.length

/-- The slots that an execution fills: for each placeholder the name of its token, or nothing for a
fixed value. -/
def slots (q : Query) : List (Option String) := q.bindings.map Binding.token?

/-- The names of the tokens, in the order of the placeholders. -/
def tokens (q : Query) : List String := q.bindings.filterMap Binding.token?

section Resolve

variable {σ : Type} [NamedValues σ]

/-- The value of a binding, from a source of named values. -/
def resolveBinding (source : σ) : Binding → Except ResolutionError Value
  | .value v => .ok v
  | .token name =>
    match NamedValues.valueOf? source name with
    | some v => .ok v
    | none => .error (.missingValue name)

def resolve (q : Query) (source : σ) : Except ResolutionError (List Value) :=
  q.bindings.mapM (resolveBinding source)

/-- The value of a binding, `NULL` for a token without one. -/
def resolveBindingOrNull (source : σ) : Binding → Value
  | .value v => v
  | .token name => (NamedValues.valueOf? source name).getD .null

/-- The values of all placeholders, `NULL` for tokens without one. -/
def resolveOrNull (q : Query) (source : σ) : List Value :=
  q.bindings.map (resolveBindingOrNull source)

end Resolve

end Query

end PreparedSql
