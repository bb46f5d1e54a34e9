/-!
# Double-precision numbers

A double is kept as its 64 bits, so equality is decidable, the two zeros differ, and every fact
about a number can be stated on the integers that its fields hold. A finite double is
`significand · 2 ^ exponent` up to sign; values that are not doubles are brought to the nearest one,
and a value half-way between two goes to the one with the even significand.

Powers are written with `Nat.pow`, whose meaning does not depend on the instances in scope.

## Main definitions

* `Double.decode`: the three kinds of doubles.
* `Double.nearest`: the double nearest to a quotient of natural numbers.
-/

namespace PreparedSql

/-- A double-precision number, given by its 64 bits. -/
structure Double where
  /-- The sign bit, eleven bits of exponent and 52 bits of fraction, from the top. -/
  bits : UInt64
  deriving DecidableEq, Repr

/-- What to do with a value half-way between two neighbours. -/
inductive Tie where
  /-- Take the even neighbour. -/
  | toEven
  /-- Take the larger neighbour. -/
  | up
  deriving DecidableEq, Repr

/-- The integer nearest to `num / den`. -/
def roundDiv (tie : Tie) (num den : Nat) : Nat :=
  let low := num / den
  let twice := 2 * (num % den)
  if twice < den then low
  else if den < twice then low + 1
  else
    match tie with
    | .toEven => low + low % 2
    | .up => low + 1

namespace Double

def negative (d : Double) : Bool := Nat.pow 2 63 ≤ d.bits.toNat

/-- The eleven bits of the exponent. -/
def exponentField (d : Double) : Nat := d.bits.toNat / Nat.pow 2 52 % Nat.pow 2 11

def fraction (d : Double) : Nat := d.bits.toNat % Nat.pow 2 52

/-- What the bits of a double stand for. -/
inductive Decoded where
  /-- Not a number. -/
  | nan
  /-- An infinity. -/
  | infinite (negative : Bool)
  /-- The number `± significand · 2 ^ exponent`. -/
  | finite (negative : Bool) (significand : Nat) (exponent : Int)
  deriving DecidableEq, Repr

/-- Reads the fields. The exponent field 0 has no hidden bit and the exponent of field 1. -/
def decode (d : Double) : Decoded :=
  let e := d.exponentField
  if e = 2047 then
    if d.fraction = 0 then .infinite d.negative else .nan
  else if e = 0 then .finite d.negative d.fraction (-1074)
  else .finite d.negative (Nat.pow 2 52 + d.fraction) ((e : Int) - 1075)

/-- Neither an infinity nor a NaN. -/
def isFinite (d : Double) : Bool := d.exponentField != 2047

def isZero (d : Double) : Bool := d.bits.toNat % Nat.pow 2 63 == 0

/-- The double with a given sign bit whose other bits are those of `magnitude`; a magnitude beyond
the infinity becomes the infinity. -/
def ofMagnitude (negative : Bool) (magnitude : Nat) : Double :=
  let capped := min magnitude (2047 * Nat.pow 2 52)
  ⟨UInt64.ofNat (capped + if negative then Nat.pow 2 63 else 0)⟩

/-- The quotient `num / den` in units of `2 ^ exponent`, as a numerator and a denominator. -/
def inUnits (num den : Nat) (exponent : Int) : Nat × Nat :=
  match exponent with
  | .ofNat e => (num, den * Nat.pow 2 e)
  | .negSucc e => (num * Nat.pow 2 (e + 1), den)

/-- The double nearest to `± num / den`.

The unit is the largest power of two that leaves a significand of at least 53 bits, and no smaller
than the unit of the subnormal numbers. Adding the rounded significand to the exponent field lets a
significand that rounds up to 54 bits carry into the field. -/
def nearest (negative : Bool) (num den : Nat) : Double :=
  if num = 0 then ofMagnitude negative 0 else
  let estimate : Int := (num.log2 : Int) - den.log2 - 53
  let wide := inUnits num den estimate
  let tight : Int := if Nat.pow 2 53 ≤ wide.1 / wide.2 then estimate + 1 else estimate
  let exponent : Int := max tight (-1074)
  let scaled := inUnits num den exponent
  ofMagnitude negative ((exponent + 1074).toNat * Nat.pow 2 52 + roundDiv .toEven scaled.1 scaled.2)

def ofInt (n : Int) : Double := nearest (n < 0) n.natAbs 1

/-- The same number with the other sign. -/
def neg (d : Double) : Double := ⟨d.bits ^^^ 0x8000000000000000⟩

/-- The magnitude of a finite double as a quotient; infinities and NaN have none. -/
def magnitude? (d : Double) : Option (Nat × Nat) :=
  match d.decode with
  | .finite _ m (.ofNat e) => some (m * Nat.pow 2 e, 1)
  | .finite _ m (.negSucc e) => some (m, Nat.pow 2 (e + 1))
  | _ => none

/-- The double nearest to the product of the magnitudes of two finite doubles. -/
def mulMagnitude (a b : Double) : Double :=
  match a.magnitude?, b.magnitude? with
  | some (n, d), some (n', d') => nearest false (n * n') (d * d')
  | _, _ => a

/-- The double nearest to the quotient of the magnitudes of two finite doubles. -/
def divMagnitude (a b : Double) : Double :=
  match a.magnitude?, b.magnitude? with
  | some (n, d), some (n', d') => nearest false (n * d') (d * n')
  | _, _ => a

/-- The double nearest to a power of ten. -/
def powerOfTen (n : Nat) : Double := nearest false (Nat.pow 10 n) 1

/-- The single-precision number with the given bits, which a double holds exactly. A NaN keeps its
payload and becomes quiet. -/
def ofSingle (bits : UInt32) : Double :=
  let negative : Bool := Nat.pow 2 31 ≤ bits.toNat
  let exponent : Nat := bits.toNat / Nat.pow 2 23 % Nat.pow 2 8
  let fraction : Nat := bits.toNat % Nat.pow 2 23
  if exponent = 255 then
    let payload : Nat := fraction * Nat.pow 2 29
    let quiet : Nat := if fraction = 0 ∨ Nat.pow 2 51 ≤ payload then 0 else Nat.pow 2 51
    let sign : Nat := if negative then Nat.pow 2 63 else 0
    ⟨UInt64.ofNat (sign + 2047 * Nat.pow 2 52 + payload + quiet)⟩
  else if exponent = 0 then nearest negative fraction (Nat.pow 2 149)
  else
    let scaled := inUnits (Nat.pow 2 23 + fraction) 1 (150 - (exponent : Int))
    nearest negative scaled.1 scaled.2

end Double

end PreparedSql
