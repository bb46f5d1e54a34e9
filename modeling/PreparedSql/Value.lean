import PreparedSql.Double.Layout
import PreparedSql.Text.Hex

/-!
# Values

A value is what a placeholder stands for when a statement is executed. Values are handed to the
database beside the text of the statement; the inline literal of a value is only for showing it.
-/

namespace PreparedSql

/-- A value of one of the storage classes of a database. -/
inductive Value where
  | null
  | bool (value : Bool)
  | int (value : Int64)
  | float (value : Double)
  | text (value : String)
  | blob (bytes : List UInt8)
  deriving DecidableEq, Repr

namespace Value

def isNull : Value → Bool
  | null => true
  | _ => false

/-- What an optional value stands for: its content, or `NULL`. -/
def ofOption : Option Value → Value
  | some value => value
  | none => null

/-! ## Inline literals -/

/-- Numbers in a literal are written without exponent and without a fraction when they are whole;
a last digit half-way between two goes up. -/
def inlineLayout : Layout where
  tie := .up
  positional _ := true
  wholeEnd := []

/-- The literal of a double. Infinities and NaN have no literal in SQL and are shown by name. -/
def inlineDouble (d : Double) : List Char :=
  match d.decode with
  | .nan => ['N', 'a', 'N']
  | .infinite negative => (if negative then ['-'] else []) ++ ['i', 'n', 'f']
  | .finite .. => (inlineLayout.text? d).getD []

/-- The literal of a text: quotes inside it are doubled. -/
def inlineText (s : List Char) : List Char :=
  ['\''] ++ s.flatMap (fun c ↦ if c = '\'' then ['\'', '\''] else [c]) ++ ['\'']

/-- The literal of a blob: two capital digits for each byte. -/
def inlineBlob (bytes : List UInt8) : List Char :=
  ['X', '\''] ++ bytes.flatMap (fun b ↦ Text.hexPadded .upper 2 b.toNat) ++ ['\'']

def inlineChars : Value → List Char
  | null => ['N', 'U', 'L', 'L']
  | bool true => ['T', 'R', 'U', 'E']
  | bool false => ['F', 'A', 'L', 'S', 'E']
  | int n => (if n.toInt < 0 then ['-'] else []) ++ Nat.toDigits 10 n.toInt.natAbs
  | float d => inlineDouble d
  | text s => inlineText s.toList
  | blob bytes => inlineBlob bytes

def inline (value : Value) : String := String.ofList value.inlineChars

end Value

/-! ## What a placeholder is bound to -/

/-- What a placeholder is bound to when a statement is compiled. -/
inductive Binding where
  /-- A value fixed with the statement. -/
  | value (value : Value)
  /-- A name, whose value is supplied for every execution. -/
  | token (name : String)
  deriving DecidableEq, Repr

namespace Binding

/-- The name of a token; fixed values have none. -/
def token? : Binding → Option String
  | value _ => none
  | token name => some name

end Binding

/-- How a token is shown. -/
def tokenText (name : String) : String := ":" ++ name

end PreparedSql
