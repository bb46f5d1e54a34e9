import PreparedSql.Text.Blank
import PreparedSql.Text.Quoted

/-!
# Dialects

Dialects of SQL differ in how an identifier is quoted and in how a result is limited to a window of
its rows. A `Dialect` fixes both; the `Context` of a statement starts from one and may change each
of them.
-/

namespace PreparedSql

/-! ## What a configuration can get wrong -/

/-- Why a context cannot be set up. -/
inductive ContextError where
  /-- No dialect has this name. -/
  | unknownDialect (name : String)
  /-- No limit style has this name. -/
  | unknownLimitStyle (name : String)
  /-- Neither one quote character nor an opening and a closing one. -/
  | invalidQuote (quote : String)
  deriving DecidableEq, Repr

def ContextError.message : ContextError → String
  | .unknownDialect name => "unknown dialect: " ++ name
  | .unknownLimitStyle name => "unknown limit dialect: " ++ name
  | .invalidQuote quote => "invalid identifier quote: " ++ Text.quoted quote

/-! ## Limit styles -/

/-- How the rows of a result are limited. -/
inductive LimitStyle where
  /-- `LIMIT ? OFFSET ?`. -/
  | offset
  /-- `LIMIT ?, ?`, the offset first. -/
  | xy
  /-- Two enclosing queries that compare row numbers. -/
  | rownum
  deriving DecidableEq, Repr

namespace LimitStyle

def name : LimitStyle → String
  | offset => "offset"
  | xy => "xy"
  | rownum => "rownum"

/-- The style with a given name, in any letter case. -/
def ofName (s : String) : Except ContextError LimitStyle :=
  match Text.lower s with
  | "offset" => .ok offset
  | "xy" => .ok xy
  | "rownum" => .ok rownum
  | _ => .error (.unknownLimitStyle s)

end LimitStyle

/-! ## Dialects -/

/-- A dialect of SQL. -/
inductive Dialect where
  | generic
  | postgres
  | sqlite
  | mysql
  | oracle
  deriving DecidableEq, Repr

namespace Dialect

def name : Dialect → String
  | generic => "generic"
  | postgres => "postgres"
  | sqlite => "sqlite"
  | mysql => "mysql"
  | oracle => "oracle"

def quote : Dialect → Char × Char
  | mysql => ('\x60', '\x60')
  | _ => ('"', '"')

/-- What separates the parts of a qualified name. -/
def separator : Dialect → Char
  | _ => '.'

def limitStyle : Dialect → LimitStyle
  | mysql => .xy
  | oracle => .rownum
  | _ => .offset

/-- The dialect with a given name or a usual synonym of it, in any letter case. -/
def ofName (s : String) : Except ContextError Dialect :=
  match Text.lower s with
  | "generic" | "ansi" | "standard" => .ok generic
  | "postgres" | "postgresql" | "pg" => .ok postgres
  | "sqlite" => .ok sqlite
  | "mysql" | "mariadb" => .ok mysql
  | "oracle" => .ok oracle
  | _ => .error (.unknownDialect s)

end Dialect

end PreparedSql
