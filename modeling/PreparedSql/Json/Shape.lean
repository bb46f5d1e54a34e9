import PreparedSql.Json.Printer
import PreparedSql.Text.Quoted

/-!
# The shape of a document

Before a document is understood it has to have the right shape: an object with the fields of a
record, a string where a name is expected. A `Record` lists its fields in order; a document gives
them by name, as an object, or by position, as an array. The first offence decides the answer:
members are visited in the order in which they are listed, and only when none of them offends is a
required field missed.

## Main definitions

* `ShapeError`: what can be wrong with the shape of a document.
* `Record.read`: the record that a document holds.
-/

namespace PreparedSql

/-- What is wrong with the shape of a document. -/
inductive ShapeError where
  /-- A document of another kind was expected. -/
  | wrongKind (found : Json) (expected : String)
  /-- A string of another form was expected. -/
  | wrongText (found : String) (expected : String)
  /-- A choice was given by an object without exactly one member. -/
  | notOneMember
  /-- A choice was given by its name alone. -/
  | bareChoice
  /-- A choice has none of the known names. -/
  | unknownChoice (name : String) (known : List String)
  /-- A record has no such field. -/
  | unknownField (name : String) (known : List String)
  /-- A required field is missing. -/
  | missingField (name : String)
  /-- A field is given twice. -/
  | repeatedField (name : String)
  /-- A record given by position ends before a required field. -/
  | tooFewItems (given : Nat) (title : String) (fields : Nat)
  /-- A record given by position has more items than fields. -/
  | tooManyItems (given : Nat)
  /-- No alternative of a type fits. -/
  | noAlternative (type : String)

namespace ShapeError

/-- How a message describes a document that it did not expect. -/
def describe : Json → String
  | .null => "null"
  | .bool b => "boolean `" ++ (Json.bool b).compact ++ "`"
  | .integer n => "integer `" ++ (Json.integer n).compact ++ "`"
  | .double d => "floating point `" ++ (Json.double d).compact ++ "`"
  | .text s => "string " ++ Text.quoted s
  | .array _ => "sequence"
  | .object _ => "map"

/-- How a message lists the names that it knows. -/
def listNames (names : List String) : String :=
  match names.map fun name ↦ "`" ++ name ++ "`" with
  | [a, b] => a ++ " or " ++ b
  | [a] => a
  | all => "one of " ++ ", ".intercalate all

def message : ShapeError → String
  | wrongKind found expected => "invalid type: " ++ describe found ++ ", expected " ++ expected
  | wrongText found expected =>
    "invalid value: " ++ describe (.text found) ++ ", expected " ++ expected
  | notOneMember => "invalid value: map, expected map with a single key"
  | bareChoice => "invalid type: unit variant, expected newtype variant"
  | unknownChoice name known => "unknown variant `" ++ name ++ "`, expected " ++ listNames known
  | unknownField name known => "unknown field `" ++ name ++ "`, expected " ++ listNames known
  | missingField name => "missing field `" ++ name ++ "`"
  | repeatedField name => "duplicate field `" ++ name ++ "`"
  | tooFewItems given title fields =>
    "invalid length " ++ given.repr ++ ", expected struct " ++ title ++ " with " ++ fields.repr ++
      " elements"
  | tooManyItems given =>
    "invalid length " ++ given.repr ++ ", expected fewer elements in array"
  | noAlternative type => "data did not match any variant of untagged enum " ++ type

end ShapeError

/-! ## Parts of a document -/

namespace Json

def asText : Json → Except ShapeError String
  | .text s => .ok s
  | other => .error (.wrongKind other "a string")

def asItems : Json → Except ShapeError (List Json)
  | .array items => .ok items
  | other => .error (.wrongKind other "a sequence")

def asMembers : Json → Except ShapeError (List (String × Json))
  | .object members => .ok members
  | other => .error (.wrongKind other "a map")

def asChar : Json → Except ShapeError Char
  | .text s =>
    match s.toList with
    | [c] => .ok c
    | _ => .error (.wrongText s "a character")
  | other => .error (.wrongKind other "a character")

/-- What a document holds, or nothing if it is `null`. -/
def asOptional {α : Type} (read : Json → Except ShapeError α) : Json → Except ShapeError (Option α)
  | .null => .ok none
  | document => (read document).map some

end Json

/-! ## Records -/

/-- A field of a record. -/
structure RecordField (α : Type) where
  /-- The name of the field. -/
  name : String
  /-- Whether a document has to give the field. -/
  required : Bool
  /-- Puts what a document holds into the record. -/
  put : α → Json → Except ShapeError α

/-- The fields of a record, in order. -/
structure Record (α : Type) where
  /-- The name of the record in messages. -/
  title : String
  /-- The fields. -/
  fields : List (RecordField α)
  /-- The record before any field is put into it. -/
  initial : α

namespace Record

variable {α : Type} (record : Record α)

/-- Puts the members of an object into the record, one after the other. -/
def putMembers (value : α) (seen : List String) :
    List (String × Json) → Except ShapeError α
  | [] =>
    match record.fields.find? fun field ↦ field.required && !seen.contains field.name with
    | some field => .error (.missingField field.name)
    | none => .ok value
  | (name, document) :: rest =>
    match record.fields.find? fun field ↦ field.name == name with
    | none => .error (.unknownField name (record.fields.map RecordField.name))
    | some field =>
      if seen.contains name then .error (.repeatedField name)
      else do
        let value ← field.put value document
        putMembers value (name :: seen) rest

/-- Puts the items of an array into the fields at the same positions. -/
def putItems (value : α) (position : Nat) :
    List (RecordField α) → List Json → Except ShapeError α
  | [], [] => .ok value
  | [], extra => .error (.tooManyItems (position + extra.length))
  | field :: fields, [] =>
    if field.required then .error (.tooFewItems position record.title record.fields.length)
    else putItems value (position + 1) fields []
  | field :: fields, document :: rest => do
    let value ← field.put value document
    putItems value (position + 1) fields rest

/-- The record that a document holds. -/
def read : Json → Except ShapeError α
  | .object members => record.putMembers record.initial [] members
  | .array items => record.putItems record.initial 0 record.fields items
  | other => .error (.wrongKind other ("struct " ++ record.title))

end Record

end PreparedSql
