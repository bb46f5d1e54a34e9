import PreparedSql.Dialect

/-!
# Contexts and quoted identifiers

A `Context` holds what the text of a statement depends on besides the statement: the quotes of an
identifier, the separator of a qualified name and the limit style. Everything that is compiled
quotes its names here.

A quoted part of a name stands between the opening and the closing quote, with every closing quote
inside it doubled, so the part ends at the first closing quote that is not doubled. The part `*`
stands for all columns and is not quoted.
-/

namespace PreparedSql

/-- What the compiled text depends on besides the statement. -/
structure Context where
  /-- The dialect that the context was set up for. -/
  dialect : Dialect
  /-- How the rows of a result are limited. -/
  limitStyle : LimitStyle
  /-- The opening quote of an identifier. -/
  openQuote : Char
  /-- The closing quote of an identifier. -/
  closeQuote : Char
  /-- What separates the parts of a qualified name. -/
  separator : Char
  deriving DecidableEq, Repr

namespace Context

/-! ## Contexts of dialects -/

def ofDialect (dialect : Dialect) : Context where
  dialect := dialect
  limitStyle := dialect.limitStyle
  openQuote := dialect.quote.1
  closeQuote := dialect.quote.2
  separator := dialect.separator

/-- The context that nothing was chosen for. -/
def standard : Context := ofDialect .generic

def ofName (name : String) : Except ContextError Context := do
  return ofDialect (← Dialect.ofName name)

def withLimitStyle (ctx : Context) (style : LimitStyle) : Context :=
  { ctx with limitStyle := style }

/-! ## Quoting -/

/-- The characters of a name between the quotes: closing quotes are doubled. -/
def quotedBody (ctx : Context) (part : List Char) : List Char :=
  part.flatMap fun c ↦ if c = ctx.closeQuote then [ctx.closeQuote, c] else [c]

/-- One part of a name, between quotes unless it stands for all columns. -/
def quotedPart (ctx : Context) (part : List Char) : List Char :=
  if part = ['*'] then part else [ctx.openQuote] ++ ctx.quotedBody part ++ [ctx.closeQuote]

/-- A name quoted as a single part, whether or not the separator occurs in it. -/
def quotedName (ctx : Context) (name : String) : String :=
  String.ofList (ctx.quotedPart name.toList)

/-- A qualified name, each of its parts quoted on its own. -/
def quotedPath (ctx : Context) (name : String) : String :=
  String.ofList
    ([ctx.separator].intercalate ((name.toList.splitOn ctx.separator).map ctx.quotedPart))

@[simp] theorem toList_quotedName (ctx : Context) (name : String) :
    (ctx.quotedName name).toList = ctx.quotedPart name.toList := String.toList_ofList

@[simp] theorem toList_quotedPath (ctx : Context) (name : String) :
    (ctx.quotedPath name).toList =
      [ctx.separator].intercalate ((name.toList.splitOn ctx.separator).map ctx.quotedPart) :=
  String.toList_ofList

end Context

end PreparedSql
