import PreparedSql.Double.Layout
import PreparedSql.Json.Basic
import PreparedSql.Text.Hex

/-!
# Writing JSON documents

Documents are written on one line without spaces. Only the double quote, the backslash and the
control characters below the space are escaped, so the text of a document holds no line break.
-/

namespace PreparedSql.Json

/-- One character as it stands in a string. -/
def escapedChar (c : Char) : List Char :=
  match c with
  | '"' => ['\\', '"']
  | '\\' => ['\\', '\\']
  | '\x08' => ['\\', 'b']
  | '\t' => ['\\', 't']
  | '\n' => ['\\', 'n']
  | '\x0c' => ['\\', 'f']
  | '\r' => ['\\', 'r']
  | c => if c.toNat < 0x20 then ['\\', 'u'] ++ Text.hexPadded .lower 4 c.toNat else [c]

/-- A string between double quotes. -/
def textChars (s : String) : List Char := ['"'] ++ s.toList.flatMap escapedChar ++ ['"']

/-- Doubles keep `.0` when they are whole, are written positionally when their first digit stands
for `10 ^ -5` up to `10 ^ 15`, and leave a last digit half-way between two to the even one. -/
def doubleLayout : Layout where
  tie := .toEven
  positional e := -5 ≤ e && e < 16
  wholeEnd := ['.', '0']

def integerChars (n : Int) : List Char :=
  (if n < 0 then ['-'] else []) ++ Nat.toDigits 10 n.natAbs

mutual

def chars : Json → List Char
  | .null => ['n', 'u', 'l', 'l']
  | .bool true => ['t', 'r', 'u', 'e']
  | .bool false => ['f', 'a', 'l', 's', 'e']
  | .integer n => integerChars n
  | .double d => (doubleLayout.text? d).getD ['n', 'u', 'l', 'l']
  | .text s => textChars s
  | .array items => ['['] ++ itemChars items ++ [']']
  | .object members => ['\x7b'] ++ memberChars members ++ ['\x7d']
termination_by structural document => document

def itemChars : List Json → List Char
  | [] => []
  | [item] => chars item
  | item :: next :: rest => chars item ++ [','] ++ itemChars (next :: rest)
termination_by structural items => items

/-- The members of an object, separated by commas. -/
def memberChars : List (String × Json) → List Char
  | [] => []
  | [(key, value)] => textChars key ++ [':'] ++ chars value
  | (key, value) :: next :: rest =>
    textChars key ++ [':'] ++ chars value ++ [','] ++ memberChars (next :: rest)
termination_by structural members => members

end

def compact (document : Json) : String := String.ofList document.chars

end PreparedSql.Json
