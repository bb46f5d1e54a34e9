import PreparedSql.Context.Basic
import PreparedSql.Json.Shape

/-!
# Configured contexts

A configuration names a dialect and may override its limit style, its identifier quotes and its
name separator. The quotes are given together, as one character for both or as two.
-/

namespace PreparedSql

/-- A configuration of a context. -/
structure Configuration where
  /-- The name of the dialect. -/
  dialect : String := "generic"
  /-- The name of another limit style. -/
  limitStyle : Option String := none
  /-- One quote character, or the opening and the closing one. -/
  quote : Option String := none
  /-- Another separator of qualified names. -/
  separator : Option Char := none

namespace Configuration

def record : Record Configuration where
  title := "ContextConfig"
  initial := {}
  fields := [
    ⟨"dialect", false, fun config document ↦ do
      return { config with dialect := ← document.asText }⟩,
    ⟨"limit_dialect", false, fun config document ↦ do
      return { config with limitStyle := ← document.asOptional Json.asText }⟩,
    ⟨"quote", false, fun config document ↦ do
      return { config with quote := ← document.asOptional Json.asText }⟩,
    ⟨"separator", false, fun config document ↦ do
      return { config with separator := ← document.asOptional Json.asChar }⟩]

def ofJson (document : Json) : Except ShapeError Configuration := record.read document

end Configuration

/-- The opening and the closing quote that a configuration asks for. -/
def quotePair (quote : String) : Except ContextError (Char × Char) :=
  match quote.toList with
  | [both] => .ok (both, both)
  | [opening, closing] => .ok (opening, closing)
  | _ => .error (.invalidQuote quote)

/-- The context that a configuration asks for. -/
def Context.ofConfiguration (config : Configuration) : Except ContextError Context := do
  let ctx ← Context.ofName config.dialect
  let limitStyle ←
    match config.limitStyle with
    | none => pure ctx.limitStyle
    | some name => LimitStyle.ofName name
  let (openQuote, closeQuote) ←
    match config.quote with
    | none => pure (ctx.openQuote, ctx.closeQuote)
    | some quote => quotePair quote
  return { ctx with
    limitStyle, openQuote, closeQuote, separator := config.separator.getD ctx.separator }

end PreparedSql
