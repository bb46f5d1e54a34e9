import PreparedSql.Description.Condition
import PreparedSql.From.Basic

/-!
# Chains of tables in descriptions

An entry is the name of a table or an object. An object with the single member `raw` is raw SQL; any
other names a table, either by `name` and perhaps `as`, or in short by a member whose key is the
name of the table and whose value is its alias or `null`. The members `on` and `using` make the
entry a join, whose kind is given by `join`.

The members with a meaning of their own cannot name a table in short; they are `entryKeys`.
-/

namespace PreparedSql

/-- The keys of an entry that have a meaning of their own. -/
def entryKeys : List String := ["name", "as", "join", "on", "using"]

def optionalOfJson {α : Type} (read : Json → Except DescriptionError α) :
    Option Json → Except DescriptionError (Option α)
  | none => .ok none
  | some document => (read document).map some

/-- The table that the members of an entry name. -/
def TableName.ofMembers (members : List (String × Json)) : Except DescriptionError TableName :=
  let inShort := members.filter fun (key, _) ↦ !entryKeys.contains key
  match inShort, members.lookup "name" with
  | [], some name => do
    let name ← requireText "name" name
    return ⟨name, ← optionalOfJson (requireText "as") (members.lookup "as")⟩
  | [(name, aliasName)], none =>
    if (members.lookup "as").isSome then .error (.entryName (.object members))
    else
      match aliasName with
      | .null => .ok ⟨name, none⟩
      | other => do return ⟨name, some (← requireText "alias" other)⟩
  | _, _ => .error (.entryName (.object members))

/-- How the members of an entry match it with the one before, if they do. -/
def JoinMatch.ofMembers? (table : String) (members : List (String × Json)) :
    Except DescriptionError (Option JoinMatch) :=
  match members.lookup "on", members.lookup "using" with
  | some condition, none => do return some (.onCondition (← Condition.ofJson condition))
  | none, some column => do return some (.shared (← requireText "using" column))
  | none, none => .ok none
  | some _, some _ => .error (.twoMatches table)

/-- The kind of join that a document names, in any letter case; without one it is an inner join. -/
def JoinKind.ofJson : Option Json → Except DescriptionError JoinKind
  | none => .ok .inner
  | some document => do
    match Text.lower (← requireText "join" document) with
    | "inner" => return .inner
    | "left" => return .left
    | other => .error (.joinKind other)

namespace FromEntry

def ofMembers (members : List (String × Json)) : Except DescriptionError FromEntry :=
  match members.lookup "raw" with
  | some (.text sql) => if members.length = 1 then .ok (.raw sql) else .error .rawEntry
  | some _ => .error .rawEntry
  | none => do
    let table ← TableName.ofMembers members
    let rows ← JoinMatch.ofMembers? table.name members
    let kind ← JoinKind.ofJson (members.lookup "join")
    match rows with
    | some rows => return .join { table, kind, rows }
    | none =>
      if (members.lookup "join").isSome then .error (.noMatch table.name)
      else return .table table

/-- The entry that a document stands for. -/
def ofJson : Json → Except DescriptionError FromEntry
  | .text name => .ok (.table { name })
  | .object members => ofMembers members
  | other => .error (.entryKind other)

/-- The entries that a document stands for: a single one or a list. -/
def listOfJson : Json → Except DescriptionError (List FromEntry)
  | .array items => items.mapM ofJson
  | .text name => do return [← ofJson (.text name)]
  | .object members => do return [← ofJson (.object members)]
  | other => .error (.tablesKind other)

end FromEntry

end PreparedSql
