import PreparedSql.Json.Number
import PreparedSql.Text.Hex

/-!
# JSON tokens

A text is cut into punctuation, strings and scalars. White space between tokens is the space, the
tab, the line feed and the carriage return, and nothing else. Inside a string a control character
has to be escaped, and an escape for half of a surrogate pair has to be followed by the other half.

A run of characters that can occur in a number is read as one literal; a text in which such a run
is not a literal is no JSON, since no two tokens other than punctuation may touch.
-/

namespace PreparedSql.Json

/-- A token of a JSON text. -/
inductive Token where
  | openArray
  | closeArray
  | openObject
  | closeObject
  | comma
  | colon
  /-- A string, which is a value or the key of a member. -/
  | text (value : String)
  /-- A number, a boolean or `null`. -/
  | scalar (value : Json)

namespace Token

/-! ## Strings -/

/-- The character for a letter after a backslash, for the escapes of one letter. -/
def simpleEscape? : Char → Option Char
  | '"' => some '"'
  | '\\' => some '\\'
  | '/' => some '/'
  | 'b' => some '\x08'
  | 'f' => some '\x0c'
  | 'n' => some '\n'
  | 'r' => some '\r'
  | 't' => some '\t'
  | _ => none

/-- The code written by the four digits at the front, and what follows them. -/
def code? : List Char → Option (Nat × List Char)
  | a :: b :: c :: d :: rest => (Text.hexNumber? [a, b, c, d]).map fun code ↦ (code, rest)
  | _ => none

/-- The character that two halves of a surrogate pair stand for. -/
def ofSurrogates (high low : Nat) : Char :=
  Char.ofNat (0x10000 + (high - 0xD800) * 0x400 + (low - 0xDC00))

/-- Reads an escape, after its backslash. -/
def unescape? : List Char → Option (Char × List Char)
  | 'u' :: rest =>
    match code? rest with
    | none => none
    | some (code, rest) =>
      if 0xDC00 ≤ code ∧ code < 0xE000 then none
      else if 0xD800 ≤ code ∧ code < 0xDC00 then
        match rest with
        | '\\' :: 'u' :: rest =>
          match code? rest with
          | some (low, rest) =>
            if 0xDC00 ≤ low ∧ low < 0xE000 then some (ofSurrogates code low, rest) else none
          | none => none
        | _ => none
      else some (Char.ofNat code, rest)
  | c :: rest => (simpleEscape? c).map fun c ↦ (c, rest)
  | [] => none

theorem length_of_code? {cs rest : List Char} {code : Nat} (h : code? cs = some (code, rest)) :
    rest.length < cs.length := by
  unfold code? at h
  split at h
  · obtain ⟨_, _, h⟩ := Option.map_eq_some_iff.1 h
    simp only [Prod.mk.injEq] at h
    simp [← h.2]
    omega
  · simp at h

theorem length_of_unescape? {cs rest : List Char} {c : Char}
    (h : unescape? cs = some (c, rest)) : rest.length < cs.length := by
  unfold unescape? at h
  split at h
  · split at h
    · simp at h
    · next code tail hCode =>
      have shorter := length_of_code? hCode
      split at h
      · simp at h
      · split at h
        · split at h
          · split at h
            · next low tail' hLow =>
              have shorter' := length_of_code? hLow
              split at h
              · simp only [Option.some.injEq, Prod.mk.injEq] at h
                simp only [List.length_cons] at shorter ⊢
                rw [← h.2]
                omega
              · simp at h
            · simp at h
          · simp at h
        · simp only [Option.some.injEq, Prod.mk.injEq] at h
          simp only [List.length_cons]
          rw [← h.2]
          omega
  · obtain ⟨_, _, h⟩ := Option.map_eq_some_iff.1 h
    simp only [Prod.mk.injEq] at h
    simp [← h.2]
  · simp at h

/-- Reads the rest of a string up to its closing quote: the characters it stands for, and what
follows the quote. -/
def scanText? (cs : List Char) : Option (List Char × List Char) :=
  match cs with
  | [] => none
  | '"' :: rest => some ([], rest)
  | '\\' :: rest =>
    match _h : unescape? rest with
    | none => none
    | some (c, after) => (scanText? after).map fun (content, rest) ↦ (c :: content, rest)
  | c :: rest =>
    if c.toNat < 0x20 then none
    else (scanText? rest).map fun (content, rest) ↦ (c :: content, rest)
termination_by cs.length
decreasing_by
  · have := length_of_unescape? ‹_›
    simp only [List.length_cons]
    omega
  · simp

theorem length_of_scanText? {cs content rest : List Char}
    (h : scanText? cs = some (content, rest)) : rest.length < cs.length := by
  fun_induction scanText? cs generalizing content rest with
  | case1 => simp at h
  | case2 tail => simp at h; simp [h.2]
  | case3 => simp at h
  | case4 tail c after hEscape ih =>
    obtain ⟨⟨_, _⟩, hRest, h⟩ := Option.map_eq_some_iff.1 h
    simp only [Prod.mk.injEq] at h
    have first := length_of_unescape? hEscape
    have second := ih hRest
    simp only [List.length_cons]
    rw [← h.2]
    omega
  | case5 => simp at h
  | case6 c tail _ _ _ ih =>
    obtain ⟨⟨_, _⟩, hRest, h⟩ := Option.map_eq_some_iff.1 h
    simp only [Prod.mk.injEq] at h
    have second := ih hRest
    simp only [List.length_cons]
    rw [← h.2]
    omega

/-! ## Tokens -/

def isSpace (c : Char) : Bool := c == ' ' || c == '\t' || c == '\n' || c == '\r'

/-- The characters that occur in number literals. -/
def isNumberChar (c : Char) : Bool :=
  c.isDigit || c == '-' || c == '+' || c == '.' || c == 'e' || c == 'E'

/-- The token that a punctuation character is. -/
def punctuation? : Char → Option Token
  | '[' => some .openArray
  | ']' => some .closeArray
  | '\x7b' => some .openObject
  | '\x7d' => some .closeObject
  | ',' => some .comma
  | ':' => some .colon
  | _ => none

/-- The literal name at the front, and what follows it. -/
def name? : List Char → Option (Json × List Char)
  | 't' :: 'r' :: 'u' :: 'e' :: rest => some (.bool true, rest)
  | 'f' :: 'a' :: 'l' :: 's' :: 'e' :: rest => some (.bool false, rest)
  | 'n' :: 'u' :: 'l' :: 'l' :: rest => some (.null, rest)
  | _ => none

/-- The token at the front of a text that starts with `c`, and what follows it. -/
def first? (c : Char) (rest : List Char) : Option (Token × List Char) :=
  match punctuation? c with
  | some token => some (token, rest)
  | none =>
    if c = '"' then
      (scanText? rest).map fun (content, rest) ↦ (.text (String.ofList content), rest)
    else if isNumberChar c then
      let literal := c :: rest.takeWhile isNumberChar
      ((NumberLiteral.parse? literal).bind NumberLiteral.value?).map fun number ↦
        (.scalar number, rest.dropWhile isNumberChar)
    else (name? (c :: rest)).map fun (value, rest) ↦ (.scalar value, rest)

theorem length_of_name? {cs rest : List Char} {value : Json} (h : name? cs = some (value, rest)) :
    rest.length < cs.length := by
  unfold name? at h
  split at h <;> simp at h <;> simp [← h.2] <;> omega

theorem length_of_first? {c : Char} {cs rest : List Char} {token : Token}
    (h : first? c cs = some (token, rest)) : rest.length ≤ cs.length := by
  unfold first? at h
  split at h
  · simp only [Option.some.injEq, Prod.mk.injEq] at h
    simp [h.2]
  · split at h
    · obtain ⟨⟨_, _⟩, hText, h⟩ := Option.map_eq_some_iff.1 h
      simp only [Prod.mk.injEq] at h
      have := length_of_scanText? hText
      rw [← h.2]
      omega
    · split at h
      · obtain ⟨_, _, h⟩ := Option.map_eq_some_iff.1 h
        simp only [Prod.mk.injEq] at h
        rw [← h.2]
        exact (List.dropWhile_suffix _).length_le
      · obtain ⟨⟨_, _⟩, hName, h⟩ := Option.map_eq_some_iff.1 h
        simp only [Prod.mk.injEq] at h
        have := length_of_name? hName
        simp only [List.length_cons] at this
        rw [← h.2]
        omega

/-- The tokens of a text. -/
def scan? (cs : List Char) : Option (List Token) :=
  match cs with
  | [] => some []
  | c :: rest =>
    if isSpace c then scan? rest
    else
      match _h : first? c rest with
      | none => none
      | some (token, after) => (scan? after).map (token :: ·)
termination_by cs.length
decreasing_by
  · simp
  · have := length_of_first? ‹_›
    simp only [List.length_cons]
    omega

end Token

end PreparedSql.Json
