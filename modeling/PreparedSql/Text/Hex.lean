/-!
# Hexadecimal digits

The digits of a number in base sixteen, in either letter case, and what one digit stands for. Blob
literals, escapes in quoted text and escapes in JSON strings are written and read with these.
-/

namespace PreparedSql.Text

/-- The letter case of the digits above nine. -/
inductive HexCase where
  | lower
  | upper
  deriving DecidableEq, Repr

/-- The digit for a value below sixteen; larger values count modulo sixteen. -/
def hexDigit (letters : HexCase) (n : Nat) : Char :=
  let d := n % 16
  if d < 10 then Char.ofNat ('0'.toNat + d)
  else
    match letters with
    | .lower => Char.ofNat ('a'.toNat + (d - 10))
    | .upper => Char.ofNat ('A'.toNat + (d - 10))

/-- What a digit in either letter case stands for. -/
def hexValue? (c : Char) : Option Nat :=
  if '0' ≤ c ∧ c ≤ '9' then some (c.toNat - '0'.toNat)
  else if 'a' ≤ c ∧ c ≤ 'f' then some (c.toNat - 'a'.toNat + 10)
  else if 'A' ≤ c ∧ c ≤ 'F' then some (c.toNat - 'A'.toNat + 10)
  else none

theorem hexValue?_hexDigit (letters : HexCase) {n : Nat} (h : n < 16) :
    hexValue? (hexDigit letters n) = some n := by
  have cases : ∀ m : Fin 16, hexValue? (hexDigit letters m) = some m.val := by
    cases letters <;> decide
  exact cases ⟨n, h⟩

theorem hexDigit_mod (letters : HexCase) (n : Nat) :
    hexDigit letters (n % 16) = hexDigit letters n := by
  simp [hexDigit]

/-- The digits of `n`, most significant first, without leading zeros; zero is one digit. -/
def hexDigits (letters : HexCase) (n : Nat) : List Char :=
  if n < 16 then [hexDigit letters n]
  else hexDigits letters (n / 16) ++ [hexDigit letters n]

/-- The last `width` digits of `n`, with leading zeros. -/
def hexPadded (letters : HexCase) : (width : Nat) → (n : Nat) → List Char
  | 0, _ => []
  | width + 1, n => hexPadded letters width (n / 16) ++ [hexDigit letters n]

/-- The number that a list of digits stands for, most significant first. -/
def hexNumber? (digits : List Char) : Option Nat :=
  digits.foldlM (fun n c ↦ (hexValue? c).map (n * 16 + ·)) 0

theorem hexNumber?_hexPadded (letters : HexCase) {width n : Nat} (h : n < Nat.pow 16 width) :
    hexNumber? (hexPadded letters width n) = some n := by
  induction width generalizing n with
  | zero =>
    obtain rfl : n = 0 := Nat.lt_one_iff.mp h
    rfl
  | succ width ih =>
    have front : n / 16 < Nat.pow 16 width := Nat.div_lt_of_lt_mul (Nat.mul_comm .. ▸ h)
    rw [hexPadded, hexNumber?, List.foldlM_append, ← hexNumber?, ih front, ← hexDigit_mod]
    simp only [List.foldlM_cons, List.foldlM_nil, hexValue?_hexDigit letters (n.mod_lt (by decide))]
    exact congrArg some (Nat.div_add_mod' n 16)

end PreparedSql.Text
