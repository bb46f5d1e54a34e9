import PreparedSql.Context.Basic
import PreparedSql.Query

/-!
# Limiting a result to a window of its rows

A window skips `offset` rows and keeps the next `limit`. Each limit style writes it in its own way,
but always as a template put in front of the query and one put behind it. What stands in front
holds no placeholder, so the bindings of the query stay first and those of the window follow them in
the order of the text.

A window without a limit is no window: a lone offset is left out.
-/

namespace PreparedSql

/-- The templates put in front of a query and behind it. -/
structure Enclosure where
  /-- What stands in front. -/
  front : Template
  /-- What stands behind. -/
  back : Template

namespace Enclosure

/-- Nothing in front and nothing behind. -/
def none : Enclosure := ⟨[], []⟩

def around (e : Enclosure) (t : Template) : Template := e.front ++ t ++ e.back

def aroundQuery (e : Enclosure) (q : Query) : Query where
  sql := e.front.text ++ q.sql ++ e.back.text
  bindings := e.front.bindings ++ q.bindings ++ e.back.bindings

@[simp] theorem ofTemplate_around (e : Enclosure) (t : Template) :
    Query.ofTemplate (e.around t) = e.aroundQuery (Query.ofTemplate t) := by
  simp [Query.ofTemplate, around, aroundQuery, String.append_assoc]

end Enclosure

/-! ## The three styles -/

/-- `LIMIT ?`, and `OFFSET ?` if there is an offset. -/
def offsetWindow (limit : Binding) (offset : Option Binding) : Enclosure where
  front := []
  back :=
    Template.ofString " LIMIT " ++ Template.placeholder limit ++
      match offset with
      | none => []
      | some offset => Template.ofString " OFFSET " ++ Template.placeholder offset

/-- `LIMIT ?, ?` with the offset first, or `LIMIT ?` without an offset. -/
def xyWindow (limit : Binding) (offset : Option Binding) : Enclosure where
  front := []
  back :=
    Template.ofString " LIMIT " ++
      (match offset with
      | none => []
      | some offset => Template.placeholder offset ++ Template.ofString ", ") ++
      Template.placeholder limit

/-- Numbers the rows of the query, keeps those up to `limit + offset` and then those after
`offset`. A missing offset is bound to zero, because the text needs both numbers. -/
def rownumWindow (ctx : Context) (limit : Binding) (offset : Option Binding) : Enclosure where
  front :=
    Template.ofString
      ("SELECT * FROM ( SELECT " ++ ctx.quotedName "A" ++ ".*, ROWNUM " ++ ctx.quotedName "r" ++
        " FROM ( ")
  back :=
    let offset := offset.getD (.value (.int 0))
    Template.ofString (" ) " ++ ctx.quotedName "A" ++ " WHERE ROWNUM <= ") ++
      Template.placeholder limit ++ Template.ofString " + " ++ Template.placeholder offset ++
      Template.ofString (" ) " ++ ctx.quotedName "B" ++ " WHERE " ++ ctx.quotedName "r" ++ " > ") ++
      Template.placeholder offset

/-- The window with a given limit and offset, in the limit style of the context. -/
def window (ctx : Context) (limit offset : Option Binding) : Enclosure :=
  match limit with
  | none => .none
  | some limit =>
    match ctx.limitStyle with
    | .offset => offsetWindow limit offset
    | .xy => xyWindow limit offset
    | .rownum => rownumWindow ctx limit offset

end PreparedSql
