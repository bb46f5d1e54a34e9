import PreparedSql.Json.Token

/-!
# Reading JSON documents

The reader takes the tokens one at a time and keeps the arrays and objects that are still open on a
stack, innermost first. A state says what may come next, so a token that may not is refused at
once, and a text is a document if its tokens lead to a finished document with nothing left open.
The depth of nesting is bounded.
-/

namespace PreparedSql.Json

namespace Reader

/-- An array or object that is still open. -/
inductive Frame where
  /-- An array, with its items so far, the last one first. -/
  | array (items : List Json)
  /-- An object, with its members so far, the last one first, and the key that waits for its
  value. -/
  | object (members : List (String × Json)) (key : String)

/-- What the reader has seen, and with it what may come next. -/
inductive State where
  /-- A value comes next. -/
  | value (stack : List Frame)
  /-- An array was opened; its first item or its end comes next. -/
  | items (stack : List Frame)
  /-- An object was opened; its first key or its end comes next. -/
  | members (stack : List Frame)
  /-- A key comes next. -/
  | key (before : List (String × Json)) (stack : List Frame)
  /-- A colon comes next. -/
  | colon (before : List (String × Json)) (key : String) (stack : List Frame)
  /-- A value was finished; a comma, or the end of what is open, comes next. -/
  | finished (value : Json) (stack : List Frame)

/-- Takes a token where a value comes next. -/
def startValue? (maxDepth : Nat) (stack : List Frame) : Token → Option State
  | .text s => some (.finished (.text s) stack)
  | .scalar value => some (.finished value stack)
  | .openArray => if stack.length < maxDepth then some (.items stack) else none
  | .openObject => if stack.length < maxDepth then some (.members stack) else none
  | _ => none

/-- Takes a token after a finished value. -/
def continue? (value : Json) (stack : List Frame) : Token → Option State
  | .comma =>
    match stack with
    | .array items :: rest => some (.value (.array (value :: items) :: rest))
    | .object members key :: rest => some (.key ((key, value) :: members) rest)
    | [] => none
  | .closeArray =>
    match stack with
    | .array items :: rest => some (.finished (.array (value :: items).reverse) rest)
    | _ => none
  | .closeObject =>
    match stack with
    | .object members key :: rest =>
      some (.finished (.object ((key, value) :: members).reverse) rest)
    | _ => none
  | _ => none

/-- Takes one token. -/
def step? (maxDepth : Nat) : State → Token → Option State
  | .value stack, token => startValue? maxDepth stack token
  | .items stack, .closeArray => some (.finished (.array []) stack)
  | .items stack, token => startValue? maxDepth (.array [] :: stack) token
  | .members stack, .closeObject => some (.finished (.object []) stack)
  | .members stack, .text key => some (.colon [] key stack)
  | .key before stack, .text key => some (.colon before key stack)
  | .colon before key stack, .colon => some (.value (.object before key :: stack))
  | .finished value stack, token => continue? value stack token
  | _, _ => none

end Reader

/-- How deeply arrays and objects may be nested in a document that comes from outside. -/
def maxDepth : Nat := 127

/-- The document that a text holds, its members as written, unless the text is not JSON or nests
arrays and objects more than `depth` deep. -/
def parse? (depth : Nat) (text : String) : Option Json := do
  let tokens ← Token.scan? text.toList
  match ← tokens.foldlM (Reader.step? depth) (.value []) with
  | .finished document [] => return document
  | _ => none

/-- The canonical form of the document that a text holds. -/
def read? (text : String) : Option Json := (parse? maxDepth text).map canonical

end PreparedSql.Json
