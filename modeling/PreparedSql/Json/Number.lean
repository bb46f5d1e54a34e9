import PreparedSql.Json.Basic

/-!
# JSON number literals

A literal without fraction and exponent is an integer if a 64-bit word holds it; the negative zero
and negative integers below the signed range are doubles. Every other literal is a double, and
reading it takes two roundings: the digits are gathered in an unsigned 64-bit word, digits that no
longer fit being dropped, and the word is then scaled by a power of ten. A literal beyond the
largest double is no number; one below the smallest is a zero.

## Main definitions

* `NumberLiteral.parse?`: the parts of a literal, by the grammar of JSON.
* `NumberLiteral.value?`: the number that the parts stand for.
-/

namespace PreparedSql.Json

/-- The parts of a number literal, digits as values below ten. -/
structure NumberLiteral where
  /-- Whether the literal starts with a minus sign. -/
  negative : Bool
  /-- The digits before the point. -/
  whole : List Nat
  /-- The digits after the point, if there is one. -/
  fraction : Option (List Nat)
  /-- The exponent, if there is one. -/
  exponent : Option Int

namespace NumberLiteral

/-! ## Grammar -/

def digitValue (c : Char) : Nat := c.toNat - '0'.toNat

/-- The run of decimal digits at the front, as values, and what follows it. -/
def spanDigits (cs : List Char) : List Nat × List Char :=
  ((cs.takeWhile Char.isDigit).map digitValue, cs.dropWhile Char.isDigit)

/-- The digits before the point: a zero alone or a run that starts with another digit. -/
def parseWhole? (cs : List Char) : Option (List Nat × List Char) :=
  match spanDigits cs with
  | ([], _) => none
  | (0 :: _ :: _, _) => none
  | parts => some parts

/-- The fraction, if the text goes on with a point; at least one digit follows the point. -/
def parseFraction? (cs : List Char) : Option (Option (List Nat) × List Char) :=
  match cs with
  | '.' :: rest =>
    match spanDigits rest with
    | ([], _) => none
    | (digits, rest) => some (some digits, rest)
  | _ => some (none, cs)

/-- The number that a run of decimal digits stands for. -/
def ofDigits (digits : List Nat) : Nat := digits.foldl (fun n d ↦ n * 10 + d) 0

/-- An exponent, which ends the literal: an `e`, perhaps a sign, and at least one digit. -/
def parseExponent? (cs : List Char) : Option (Option Int) :=
  let signed (negative : Bool) (rest : List Char) : Option (Option Int) :=
    match spanDigits rest with
    | (d :: ds, []) =>
      let n : Int := ofDigits (d :: ds)
      some (some (if negative then -n else n))
    | _ => none
  match cs with
  | [] => some none
  | e :: rest =>
    if e = 'e' ∨ e = 'E' then
      match rest with
      | '-' :: rest => signed true rest
      | '+' :: rest => signed false rest
      | _ => signed false rest
    else none

/-- The parts of a literal that takes up the whole text. -/
def parse? (cs : List Char) : Option NumberLiteral := do
  let (negative, cs) :=
    match cs with
    | '-' :: rest => (true, rest)
    | _ => (false, cs)
  let (whole, cs) ← parseWhole? cs
  let (fraction, cs) ← parseFraction? cs
  let exponent ← parseExponent? cs
  return { negative, whole, fraction, exponent }

/-! ## Value -/

/-- Digits gathered in a 64-bit word, to be scaled by a power of ten. -/
structure Gathered where
  /-- The word. -/
  word : Nat
  /-- The power of ten. -/
  exponent : Int

/-- Appends the digits before the point. Once a digit does not fit, it and all digits after it only
raise the power of ten. -/
def gatherWhole (digits : List Nat) : Gathered :=
  digits.foldl (fun g d ↦
    if g.exponent = 0 ∧ g.word * 10 + d < UInt64.size then ⟨g.word * 10 + d, 0⟩
    else ⟨g.word, g.exponent + 1⟩) ⟨0, 0⟩

/-- Appends the digits after the point, up to the first one that does not fit. -/
def gatherFraction (g : Gathered) : List Nat → Gathered
  | [] => g
  | d :: rest =>
    if g.word * 10 + d < UInt64.size then gatherFraction ⟨g.word * 10 + d, g.exponent - 1⟩ rest
    else g

/-- Scales a non-negative double by a power of ten. One operation does for exponents up to 308, the
largest whose power of ten is a double; below `-308` the value is first divided by that power. -/
def scale? (d : Double) (exponent : Int) : Option Double :=
  if exponent.natAbs ≤ 308 then
    if 0 ≤ exponent then
      let scaled := d.mulMagnitude (.powerOfTen exponent.natAbs)
      if scaled.isFinite then some scaled else none
    else some (d.divMagnitude (.powerOfTen exponent.natAbs))
  else if d.isZero then some d
  else if 0 < exponent then none
  else scale? (d.divMagnitude (.powerOfTen 308)) (exponent + 308)
termination_by exponent.natAbs

/-- The number that a literal stands for, unless it is too large for a double. -/
def value? (literal : NumberLiteral) : Option Json :=
  let g := gatherWhole literal.whole
  let sign (d : Double) : Double := if literal.negative then d.neg else d
  match literal.fraction, literal.exponent with
  | none, none =>
    if g.exponent ≠ 0 then (scale? (.ofInt g.word) g.exponent).map fun d ↦ .double (sign d)
    else if literal.negative then
      if 0 < g.word ∧ g.word ≤ Nat.pow 2 63 then some (.integer (-(g.word : Int)))
      else some (.double (sign (.ofInt g.word)))
    else some (.integer g.word)
  | fraction, exponent =>
    let g := gatherFraction g (fraction.getD [])
    (scale? (.ofInt g.word) (g.exponent + exponent.getD 0)).map fun d ↦ .double (sign d)

end NumberLiteral

end PreparedSql.Json
