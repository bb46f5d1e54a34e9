import PreparedSql.Json.Shape
import PreparedSql.Value

/-!
# Values in documents

A value is written without a tag, so the kind of a document decides the kind of the value: a number
is an integer when a signed 64-bit word holds it and a double otherwise, and an array is a blob when
its items are bytes. Reading undoes writing, except that infinities and NaN, which no document can
hold, are written as `null`.
-/

namespace PreparedSql.Value

/-- The document that a value is written as. -/
def toJson : Value → Json
  | null => .null
  | bool b => .bool b
  | int n => .integer n.toInt
  | float d => if d.isFinite then .double d else .null
  | text s => .text s
  | blob bytes => .array (bytes.map fun b ↦ .integer b.toNat)

/-- The signed 64-bit word that holds an integer. -/
def word? (n : Int) : Option Int64 :=
  if Int64.minValue.toInt ≤ n ∧ n ≤ Int64.maxValue.toInt then some (Int64.ofInt n) else none

/-- The value of a number: an integer if a word holds it, else the nearest double. -/
def ofInteger (n : Int) : Value :=
  match word? n with
  | some word => int word
  | none => float (.ofInt n)

/-- The byte that a document is. -/
def byte? : Json → Option UInt8
  | .integer n => if 0 ≤ n ∧ n < 256 then some (UInt8.ofNat n.toNat) else none
  | _ => none

/-- The value that a document holds. -/
def ofJson? : Json → Option Value
  | .null => some null
  | .bool b => some (bool b)
  | .integer n => some (ofInteger n)
  | .double d => some (float d)
  | .text s => some (text s)
  | .array items => (items.mapM byte?).map blob
  | .object _ => none

/-- The text of a value in a document. -/
def jsonText (value : Value) : String := value.toJson.compact

/-- The named values that a document holds. Of several values with one name the last one counts,
but each of them has to be a value. -/
def namedOfJson (document : Json) : Except ShapeError (List (String × Value)) := do
  let members ← document.asMembers
  let values ← members.mapM fun (name, value) ↦
    match ofJson? value with
    | some value => .ok (name, value)
    | none => .error (.noAlternative "SqlValue")
  return Json.sortMembers values

end PreparedSql.Value
