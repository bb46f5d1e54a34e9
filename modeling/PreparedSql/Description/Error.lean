import PreparedSql.CompileError
import PreparedSql.Json.Shape
import PreparedSql.Value

/-!
# Why a description cannot be loaded

A description of a statement is a JSON document. Every way in which it can be refused is listed here
with what the message repeats of it; the wording is in `DescriptionError.message`.
-/

namespace PreparedSql

/-- Why a description cannot be loaded. -/
inductive DescriptionError where
  /-- The text is not JSON. -/
  | notJson
  /-- The document does not have the shape of a statement. -/
  | shape (cause : ShapeError)
  /-- The tables are neither an entry nor a list of entries. -/
  | tablesKind (found : Json)
  /-- An entry of the tables is neither a name nor an object. -/
  | entryKind (found : Json)
  /-- An entry with raw SQL says something besides, or its SQL is no string. -/
  | rawEntry
  /-- An entry names no table, or more than one. -/
  | entryName (found : Json)
  /-- A join is matched both by a condition and by a shared column. -/
  | twoMatches (table : String)
  /-- A kind of join is given without a match. -/
  | noMatch (table : String)
  /-- A join has none of the two kinds. -/
  | joinKind (keyword : String)
  /-- A condition is neither an object nor an array nor SQL. -/
  | conditionKind (found : Json)
  /-- A connective is not followed by a list of conditions. -/
  | connectiveKind (key : String) (found : Json)
  /-- An object that should test a column has no operator. -/
  | noOperator (column : String)
  /-- An operator is unknown or does not take this operand. -/
  | operator (name column : String) (operand : Json)
  /-- Neither a value nor a token. -/
  | bindingKind (found : Json)
  /-- A limit or an offset is neither an integer nor a token. -/
  | countKind (what : String) (found : Value)
  /-- A field is neither a name nor raw SQL. -/
  | fieldKind (found : Json)
  /-- Neither a name nor a list of names. -/
  | namesKind (what : String) (found : Json)
  /-- A sort term is neither a name nor a name with a direction. -/
  | orderKind (found : Json)
  /-- A sort term has an unknown direction. -/
  | direction (cause : CompileError)
  /-- The values of an insertion fit neither form. -/
  | insertValues
  /-- A string was expected. -/
  | textKind (what : String) (found : Json)

namespace DescriptionError

def cause : DescriptionError → String
  | notJson => "not a JSON document"
  | shape cause => cause.message
  | tablesKind found => "FROM must be a table, an object or an array, got " ++ found.compact
  | entryKind found => "FROM entries must be table names or objects, got " ++ found.compact
  | rawEntry => "a raw FROM entry is \x7b\"raw\": \"sql\"\x7d and nothing else"
  | entryName found => "cannot tell the table name in FROM entry " ++ found.compact
  | twoMatches table => "join on " ++ table ++ " has both \"on\" and \"using\""
  | noMatch table => "join on " ++ table ++ " needs \"on\" or \"using\""
  | joinKind keyword => "unknown join kind: " ++ keyword
  | conditionKind found =>
    "a condition must be an object, an array or SQL text, got " ++ found.compact
  | connectiveKind key found => key ++ " takes an array of conditions, got " ++ found.compact
  | noOperator column => "no operator given for " ++ column
  | operator name column operand =>
    "unsupported operator " ++ Text.quoted name ++ " on " ++ column ++ " with " ++ operand.compact
  | bindingKind found => "expected a value or \x7b\"$token\": name\x7d, got " ++ found.compact
  | countKind what found => what ++ " must be an integer or a token, got " ++ found.inline
  | fieldKind found => "fields must be names or \x7b\"raw\": sql\x7d, got " ++ found.compact
  | namesKind what found => what ++ " must be a name or an array of names, got " ++ found.compact
  | orderKind found =>
    "order_by entries must be a name or [name, direction], got " ++ found.compact
  | direction cause => cause.message
  | insertValues => "INSERT values must be an object, or rows matching \"columns\""
  | textKind what found => what ++ " must be a string, got " ++ found.compact

def message (e : DescriptionError) : String := "invalid statement description: " ++ e.cause

end DescriptionError

end PreparedSql
