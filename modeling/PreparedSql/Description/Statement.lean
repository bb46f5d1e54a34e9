import PreparedSql.Description.From
import PreparedSql.Json.Reader
import PreparedSql.Statement.Basic

/-!
# Statements in descriptions

A statement is an object with one member, whose key is the kind of the statement and whose value is
a record of its parts. First the whole record has to have the right shape; then its parts are
understood in the order in which the record lists them.

## Main definitions

* `Statement.ofJson`: the statement that a document describes.
* `Statement.read`: the statement that a text describes.
-/

namespace PreparedSql

/-! ## Lists of names, fields and sort terms -/

/-- A name or a list of names; `what` names them in messages. -/
def namesOfJson (what : String) : Json → Except DescriptionError (List String)
  | .text name => .ok [name]
  | .array items => items.mapM (requireText what)
  | other => .error (.namesKind what other)

/-- A field: the name of a column, or raw SQL in an object with the single member `raw`. -/
def Field.ofJson : Json → Except DescriptionError Field
  | .text name => .ok (.column name)
  | .object [("raw", sql)] => do return .raw (← requireText "raw" sql)
  | other => .error (.fieldKind other)

/-- A field or a list of fields. -/
def Field.listOfJson : Json → Except DescriptionError (List Field)
  | .array items => items.mapM Field.ofJson
  | single => do return [← Field.ofJson single]

/-- A sort term: the name of a column, or a list of the name and a direction. -/
def SortTerm.ofJson : Json → Except DescriptionError SortTerm
  | .text column => .ok ⟨column, none⟩
  | .array [column, keyword] => do
    let keyword ← requireText "order_by direction" keyword
    let direction ← (Direction.ofKeyword keyword).mapError .direction
    return ⟨← requireText "order_by" column, some direction⟩
  | other => .error (.orderKind other)

/-- A sort term or a list of sort terms. -/
def SortTerm.listOfJson : Json → Except DescriptionError (List SortTerm)
  | .array items => items.mapM SortTerm.ofJson
  | single => do return [← SortTerm.ofJson single]

/-! ## The parts of each kind -/

structure SelectParts where
  fields : Option Json := none
  tables : Json := .null
  filter : Option Json := none
  groupBy : Option Json := none
  orderBy : Option Json := none
  limit : Option Json := none
  offset : Option Json := none

structure InsertParts where
  table : String := ""
  columns : List String := []
  values : Json := .null

structure UpdateParts where
  table : String := ""
  assignments : List (String × Json) := []
  filter : Option Json := none

structure DeleteParts where
  table : String := ""
  filter : Option Json := none

/-- A document, or nothing if it is `null`. -/
def optionalPart (document : Json) : Except ShapeError (Option Json) :=
  document.asOptional .ok

def SelectParts.record : Record SelectParts where
  title := "SelectWire"
  initial := {}
  fields := [
    ⟨"fields", false, fun parts d ↦ do return { parts with fields := ← optionalPart d }⟩,
    ⟨"from", true, fun parts d ↦ .ok { parts with tables := d }⟩,
    ⟨"where", false, fun parts d ↦ do return { parts with filter := ← optionalPart d }⟩,
    ⟨"group_by", false, fun parts d ↦ do return { parts with groupBy := ← optionalPart d }⟩,
    ⟨"order_by", false, fun parts d ↦ do return { parts with orderBy := ← optionalPart d }⟩,
    ⟨"limit", false, fun parts d ↦ do return { parts with limit := ← optionalPart d }⟩,
    ⟨"offset", false, fun parts d ↦ do return { parts with offset := ← optionalPart d }⟩]

def InsertParts.record : Record InsertParts where
  title := "InsertWire"
  initial := {}
  fields := [
    ⟨"table", true, fun parts d ↦ do return { parts with table := ← d.asText }⟩,
    ⟨"columns", false, fun parts d ↦ do
      return { parts with columns := ← (← d.asItems).mapM Json.asText }⟩,
    ⟨"values", true, fun parts d ↦ .ok { parts with values := d }⟩]

def UpdateParts.record : Record UpdateParts where
  title := "UpdateWire"
  initial := {}
  fields := [
    ⟨"table", true, fun parts d ↦ do return { parts with table := ← d.asText }⟩,
    ⟨"set", true, fun parts d ↦ do return { parts with assignments := ← d.asMembers }⟩,
    ⟨"where", false, fun parts d ↦ do return { parts with filter := ← optionalPart d }⟩]

def DeleteParts.record : Record DeleteParts where
  title := "DeleteWire"
  initial := {}
  fields := [
    ⟨"table", true, fun parts d ↦ do return { parts with table := ← d.asText }⟩,
    ⟨"where", false, fun parts d ↦ do return { parts with filter := ← optionalPart d }⟩]

/-! ## Statements from their parts -/

def Select.ofParts (parts : SelectParts) : Except DescriptionError Select := do
  let fields ← optionalOfJson Field.listOfJson parts.fields
  let tables ← FromEntry.listOfJson parts.tables
  let filter ← optionalOfJson Condition.ofJson parts.filter
  let groupBy ← optionalOfJson (namesOfJson "group_by") parts.groupBy
  let orderBy ← optionalOfJson SortTerm.listOfJson parts.orderBy
  let limit ← optionalOfJson (Binding.countOfJson "limit") parts.limit
  let offset ← optionalOfJson (Binding.countOfJson "offset") parts.offset
  return {
    fields := fields.getD [], tables, filter, groupBy := groupBy.getD [],
    orderBy := orderBy.getD [], limit, offset }

/-- The columns and rows of an insertion. Without a list of columns the values are one row, by
column; with one they are a list of rows, or else a single row. -/
def Insert.cellsOfJson (columns : List String) (values : Json) :
    Except DescriptionError (List String × List (List Binding)) :=
  match values, columns with
  | .object members, [] => do
    let row ← members.mapM fun (_, document) ↦ Binding.ofJson document
    return (members.map Prod.fst, [row])
  | .array items, column :: columns =>
    match items.mapM Json.items? with
    | some rows => do return (column :: columns, ← rows.mapM fun cells ↦ cells.mapM Binding.ofJson)
    | none => do return (column :: columns, [← items.mapM Binding.ofJson])
  | _, _ => .error .insertValues

def Insert.ofParts (parts : InsertParts) : Except DescriptionError Insert := do
  let (columns, rows) ← Insert.cellsOfJson parts.columns parts.values
  return { table := parts.table, columns, rows }

def Update.ofParts (parts : UpdateParts) : Except DescriptionError Update := do
  let assignments ← parts.assignments.mapM fun (column, document) ↦ do
    return (column, ← Operand.ofJson document)
  let filter ← optionalOfJson Condition.ofJson parts.filter
  return { table := parts.table, assignments, filter }

def Delete.ofParts (parts : DeleteParts) : Except DescriptionError Delete := do
  let filter ← optionalOfJson Condition.ofJson parts.filter
  return { table := parts.table, filter }

namespace Statement

def kindNames : List String := ["select", "insert", "update", "delete"]

/-- The statement of a named kind that a document describes. -/
def ofKind (kind : String) (document : Json) : Except DescriptionError Statement :=
  match kind with
  | "select" => do
    let parts ← (SelectParts.record.read document).mapError .shape
    return .select (← Select.ofParts parts)
  | "insert" => do
    let parts ← (InsertParts.record.read document).mapError .shape
    return .insert (← Insert.ofParts parts)
  | "update" => do
    let parts ← (UpdateParts.record.read document).mapError .shape
    return .update (← Update.ofParts parts)
  | "delete" => do
    let parts ← (DeleteParts.record.read document).mapError .shape
    return .delete (← Delete.ofParts parts)
  | other => .error (.shape (.unknownChoice other kindNames))

/-- The statement that a document describes. -/
def ofJson : Json → Except DescriptionError Statement
  | .object [(kind, document)] => ofKind kind document
  | .object _ => .error (.shape .notOneMember)
  | .text kind =>
    if kindNames.contains kind then .error (.shape .bareChoice)
    else .error (.shape (.unknownChoice kind kindNames))
  | other => .error (.shape (.wrongKind other "string or map"))

/-- The statement that a text describes. -/
def read (text : String) : Except DescriptionError Statement :=
  match Json.read? text with
  | none => .error .notJson
  | some document => ofJson document

end Statement

end PreparedSql
