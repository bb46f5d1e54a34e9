import PreparedSql.Condition.Template
import PreparedSql.From.Basic
import PreparedSql.Text.Enclosed

/-!
# The SQL of chains of tables

Listed entries are separated by commas and a join follows its neighbour. The condition of a join is
written between parentheses of its own, so parentheses around the whole of it are removed first.

A join by a shared column compares the column of the joined table with the column of the entry
before it, both under their exposed names. Raw SQL has no name that could be qualified, so such a
join cannot follow it.
-/

namespace PreparedSql

/-- A name with something in it besides white space. -/
def requireName (name : String) : Except CompileError String :=
  if Text.allBlank name then .error (.inFrom .blankName) else .ok name

/-- The quoted name of a table and its quoted alias. -/
def TableName.sql (ctx : Context) (table : TableName) : Except CompileError String := do
  let name ← requireName table.name
  match table.aliasName with
  | none => return ctx.quotedPath name
  | some aliasName =>
    return ctx.quotedPath name ++ " " ++ ctx.quotedName (← requireName aliasName)

def JoinKind.keywords : JoinKind → String
  | inner => "JOIN "
  | left => "LEFT JOIN "

/-- A column of an entry, by the exposed name of the entry. -/
def qualified (ctx : Context) (entry column : String) : String :=
  entry ++ ctx.separator.toString ++ column

theorem allBlank_qualified {ctx : Context} {entry column : String}
    (h : Text.allBlank column = false) : Text.allBlank (qualified ctx entry column) = false := by
  rw [qualified, Text.allBlank, String.toList_append, List.all_append]
  rw [Text.allBlank] at h
  rw [h, Bool.and_false]

theorem splitOn_qualified (ctx : Context) (entry column : String) :
    (qualified ctx entry column).toList.splitOn ctx.separator =
      entry.toList.splitOn ctx.separator ++ column.toList.splitOn ctx.separator := by
  have separator : ctx.separator.toString.toList = [ctx.separator] := by
    rw [Char.toString, String.toList_singleton]
  rw [qualified, String.toList_append, String.toList_append, separator, List.append_assoc,
    List.singleton_append, List.splitOn_append_cons_self]

/-- The condition that two entries agree in a column. -/
def sharedColumnCondition (ctx : Context) (current previous column : String) : Condition :=
  Condition.all [Column.compare (qualified ctx current column) .equal
    (.column (qualified ctx previous column))]

/-- The condition of a join, behind an entry with the given exposed name. -/
def Join.condition (ctx : Context) (previous : String) (join : Join) :
    Except CompileError Condition :=
  match join.rows with
  | .onCondition condition => .ok condition
  | .shared column => do
    return sharedColumnCondition ctx join.table.exposedName previous (← requireName column)

/-- The template without white space at its ends and without the parentheses around it. -/
def Template.stripEnclosing (ctx : Context) (t : Template) : Template :=
  Text.stripEnclosing Symbol.shown ctx.openQuote ctx.closeQuote t

/-- Placeholders are neither white space nor parentheses, so none of them is removed. -/
@[simp] theorem Template.bindings_stripEnclosing (ctx : Context) (t : Template) :
    (t.stripEnclosing ctx).bindings = t.bindings := by
  obtain ⟨front, back, whole, hFront, hBack⟩ :=
    Text.exists_stripEnclosing_append Symbol.shown ctx.openQuote ctx.closeQuote t
  have unbound {part : Template} (h : ∀ s ∈ part, Text.isWrapping s.shown) :
      part.bindings = [] := by
    refine List.filterMap_eq_nil_iff.2 fun s hs ↦ ?_
    cases s with
    | char => rfl
    | placeholder binding =>
      have refused : ¬Text.isWrapping '?' := by decide
      exact absurd (h _ hs) refused
  have split := congrArg bindings whole
  rw [bindings_append, bindings_append, unbound hFront, unbound hBack, List.nil_append,
    List.append_nil] at split
  exact split.symm

/-- Which parentheses are removed does not depend on the bindings. -/
theorem Template.stripEnclosing_mapBindings (ctx : Context) (f : Binding → Binding) (t : Template) :
    (t.mapBindings f).stripEnclosing ctx = (t.stripEnclosing ctx).mapBindings f := by
  have same : Symbol.shown ∘ Symbol.mapBinding f = Symbol.shown :=
    funext (Symbol.shown_mapBinding f)
  rw [stripEnclosing, mapBindings, Text.stripEnclosing_map, same]
  rfl

/-- The SQL of a join, behind an entry with the given exposed name. -/
def Join.template (ctx : Context) (previous : String) (join : Join) :
    Except CompileError Template := do
  let table ← join.table.sql ctx
  let condition ← join.condition ctx previous
  if condition.isEmpty then .error (.inFrom (.emptyCondition join.table.name))
  let body ← condition.template ctx
  return Template.ofString (" " ++ join.kind.keywords ++ table ++ " ON ( ") ++
    body.stripEnclosing ctx ++ Template.ofString " )"

namespace FromEntry

/-- The SQL of an entry that is not a join; a join has nothing to attach to. -/
def listed (ctx : Context) : FromEntry → Except CompileError Template
  | table t => do return Template.ofString (← t.sql ctx)
  | raw sql => do return Template.ofString (← requireName sql)
  | join j => .error (.inFrom (.leadingJoin j.table.name))

/-- The SQL of an entry behind another one: a comma and the entry, or a join. -/
def behind (ctx : Context) (previous : FromEntry) : FromEntry → Except CompileError Template
  | join j =>
    match j.rows, previous with
    | .shared _, raw _ => .error (.inFrom (.sharedColumnAfterRaw j.table.name))
    | _, _ => j.template ctx previous.exposedName
  | entry => do return Template.ofString ", " ++ (← entry.listed ctx)

/-- The SQL of the entries behind another one, each attached to the one before it. -/
def allBehind (ctx : Context) (previous : FromEntry) :
    List FromEntry → Except CompileError Template
  | [] => .ok []
  | entry :: rest => do
    let first ← behind ctx previous entry
    return first ++ (← allBehind ctx entry rest)

end FromEntry

/-- The SQL of a chain of tables. -/
def fromTemplate (ctx : Context) : List FromEntry → Except CompileError Template
  | [] => .error (.inFrom .noTables)
  | first :: rest => do
    let head ← first.listed ctx
    return head ++ (← first.allBehind ctx rest)

end PreparedSql
