import PreparedSql.Draft.Change
import PreparedSql.Draft.Insert
import PreparedSql.Draft.Select

/-!
# Statements that are being built

Whatever its kind, a statement is built by a list of calls. It is finished when all of them were
available where they were made and one of them has completed it, and only then can it be built: a
finished statement is compiled and its query taken apart into the text and the bindings.
-/

namespace PreparedSql

/-- A statement that is being built, with the calls that were made. -/
inductive Building where
  | select (calls : List SelectCall)
  | insert (table : String) (calls : List InsertCall)
  | update (table : String) (calls : List UpdateCall)
  | delete (table : String) (calls : List DeleteCall)

namespace Building

/-- The finished statement, if all calls were available and have completed it. -/
def statement? : Building → Option Statement
  | select calls => do return .select (← (← calls.foldlM SelectStage.call? .start).statement?)
  | insert table calls => do
    return .insert (← (← calls.foldlM InsertStage.call? (.start table)).statement?)
  | update table calls => do
    return .update (← (← calls.foldlM UpdateStage.call? (.start table)).statement?)
  | delete table calls => some (.delete (calls.foldl Delete.call (.start table)))

/-- What the statement is built to, if all calls were available and have completed it. -/
def build? (ctx : Context) : Building → Option (Except CompileError (String × List Binding))
  | select calls => do (← calls.foldlM SelectStage.call? .start).build? ctx
  | insert table calls => do (← calls.foldlM InsertStage.call? (.start table)).build? ctx
  | update table calls => do (← calls.foldlM UpdateStage.call? (.start table)).build? ctx
  | delete table calls => some ((calls.foldl Delete.call (.start table)).build ctx)

end Building

end PreparedSql
