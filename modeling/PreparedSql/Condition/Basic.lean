import PreparedSql.Text.Blank
import PreparedSql.Value

/-!
# Conditions

A condition restricts the rows that a statement reads or changes, or the rows that a join pairs. Its
leaves are tests on one column and raw SQL; its inner nodes require all of their members or any of
them.

A condition may say nothing: a blank raw text does, and so does a group none of whose members says
anything. `Condition.isEmpty` decides this, and statements leave such a condition out.

## Main definitions

* `Condition`: the trees.
* `Condition.and`, `Condition.or`: two conditions under one connective.
* `Condition.isEmpty`: the conditions that say nothing.
-/

namespace PreparedSql

/-- What a column is compared with, or what it is set to. -/
inductive Operand where
  /-- A placeholder. -/
  | placeholder (binding : Binding)
  /-- Another column, by name. -/
  | column (name : String)
  /-- SQL that is taken over as it is. -/
  | raw (sql : String)
  deriving DecidableEq, Repr

/-! ## Comparisons -/

/-- A comparison of a column with an operand. -/
inductive Comparison where
  | equal
  | notEqual
  | less
  | lessOrEqual
  | greater
  | greaterOrEqual
  | like
  | notLike
  deriving DecidableEq, Repr

namespace Comparison

def operator : Comparison → String
  | equal => "="
  | notEqual => "!="
  | less => "<"
  | lessOrEqual => "<="
  | greater => ">"
  | greaterOrEqual => ">="
  | like => "LIKE"
  | notLike => "NOT LIKE"

/-- The comparison that an operator or its short name stands for, in any letter case. -/
def ofName? (s : String) : Option Comparison :=
  match Text.lower s with
  | "=" | "==" | "eq" => some equal
  | "!=" | "<>" | "ne" => some notEqual
  | "<" | "lt" => some less
  | "<=" | "le" => some lessOrEqual
  | ">" | "gt" => some greater
  | ">=" | "ge" => some greaterOrEqual
  | "like" => some like
  | "not like" => some notLike
  | _ => none

end Comparison

/-! ## Tests and conditions -/

/-- A test of one column. -/
inductive Test where
  /-- The column compares with the operand. -/
  | compare (comparison : Comparison) (operand : Operand)
  /-- The column is one of the items, or none of them. -/
  | isIn (negated : Bool) (items : List Operand)
  /-- The column lies within the two bounds, or outside them. -/
  | between (negated : Bool) (low high : Operand)
  /-- The column has no value, or has one. -/
  | isNull (negated : Bool)
  deriving DecidableEq, Repr

/-- How the members of a group belong together. -/
inductive Connective where
  /-- All of them are required. -/
  | and
  /-- Any of them is enough. -/
  | or
  deriving DecidableEq, Repr

/-- A condition on rows. -/
inductive Condition where
  /-- A test of a column. -/
  | test (column : String) (test : Test)
  /-- Several conditions under one connective. -/
  | group (connective : Connective) (members : List Condition)
  /-- SQL that is taken over as it is. -/
  | raw (sql : String)

namespace Condition

instance : Inhabited Condition := ⟨.group .and []⟩

/-- All of the conditions are required. -/
def all (members : List Condition) : Condition := group .and members

/-- Any of the conditions is enough. -/
def any (members : List Condition) : Condition := group .or members

/-- Joins two conditions by a connective. A first condition that is itself a group under that
connective takes the second one in as its last member. -/
def connect (connective : Connective) (first second : Condition) : Condition :=
  match first with
  | group c members =>
    if c = connective then group connective (members ++ [second])
    else group connective [first, second]
  | _ => group connective [first, second]

def and (first second : Condition) : Condition := connect .and first second

def or (first second : Condition) : Condition := connect .or first second

mutual

/-- Whether the condition says nothing. -/
def isEmpty : Condition → Bool
  | test _ _ => false
  | group _ members => allEmpty members
  | raw sql => Text.allBlank sql
termination_by structural condition => condition

/-- Whether none of the conditions says anything. -/
def allEmpty : List Condition → Bool
  | [] => true
  | member :: rest => isEmpty member && allEmpty rest
termination_by structural members => members

end

end Condition

/-! ## Tests by the name of the column -/

namespace Column

/-- The column compares with the operand. -/
def compare (column : String) (comparison : Comparison) (operand : Operand) : Condition :=
  .test column (.compare comparison operand)

def isIn (column : String) (items : List Operand) : Condition := .test column (.isIn false items)

def notIn (column : String) (items : List Operand) : Condition := .test column (.isIn true items)

def between (column : String) (low high : Operand) : Condition :=
  .test column (.between false low high)

def notBetween (column : String) (low high : Operand) : Condition :=
  .test column (.between true low high)

def isNull (column : String) : Condition := .test column (.isNull false)

def isNotNull (column : String) : Condition := .test column (.isNull true)

end Column

end PreparedSql
