import PreparedSql.Double.Basic

/-!
# The shortest decimal that reads back

A double is written with the fewest digits that still read back as the same double, and among the
decimals with that many digits by the one nearest to its value. The reals that read back as
`m · 2 ^ q` form an interval that reaches half-way to the two neighbours, with its ends when `m` is
even. A grid of decimals with one spacing has a point in the interval exactly when one of the two
grid points around the value is in it, so the search looks at two candidates per spacing, from the
coarsest spacing down.
-/

namespace PreparedSql

/-- The positive decimal `digits · 10 ^ exponent`. -/
structure Decimal where
  /-- The digits, read as a natural number. -/
  digits : Nat
  /-- The power of ten of the last digit. -/
  exponent : Int
  deriving DecidableEq, Repr

namespace Shortest

/-- The reals that read back as one double, in a unit of a quarter of its last binary digit. -/
structure Interval where
  /-- The lower end. -/
  low : Nat
  /-- The value of the double. -/
  value : Nat
  /-- The upper end. -/
  high : Nat
  /-- Whether the ends belong to the interval. -/
  closed : Bool
  /-- The power of two that is the unit. -/
  unit : Int
  deriving Repr

/-- The interval of `m · 2 ^ q`. The neighbour below a power of two is closer than the one above,
except at the foot of the exponent range. -/
def Interval.ofValue (m : Nat) (q : Int) : Interval where
  low := 4 * m - if m = Nat.pow 2 52 ∧ -1074 < q then 1 else 2
  value := 4 * m
  high := 4 * m + 2
  closed := m % 2 == 0
  unit := q - 2

/-- The powers `10 ^ k` and `2 ^ u`, both multiplied by one number that makes them whole. -/
def wholePowers (k u : Int) : Nat × Nat :=
  (Nat.pow 10 k.toNat * Nat.pow 2 (-u).toNat, Nat.pow 10 (-k).toNat * Nat.pow 2 u.toNat)

/-- The point of the grid with spacing `10 ^ k` that lies in the interval and is nearest to its
value, if there is one. -/
def Interval.onGrid? (tie : Tie) (i : Interval) (k : Int) : Option Decimal :=
  let (step, unit) := wholePowers k i.unit
  let below := i.value * unit / step
  let inside (n : Nat) : Bool :=
    if i.closed then i.low * unit ≤ n * step && n * step ≤ i.high * unit
    else i.low * unit < n * step && n * step < i.high * unit
  match inside below, inside (below + 1) with
  | true, true => some ⟨roundDiv tie (i.value * unit) step, k⟩
  | true, false => some ⟨below, k⟩
  | false, true => some ⟨below + 1, k⟩
  | false, false => none

/-- The number of decimal digits of `n`; zero has one. -/
def digitCount (n : Nat) : Nat := (Nat.toDigits 10 n).length

/-- The largest power of ten that a grid with a point in the interval can have as its spacing. -/
def Interval.topExponent (i : Interval) : Int :=
  let (one, unit) := wholePowers 0 i.unit
  let whole := i.high * unit / one
  if whole = 0 then -((digitCount ((one - 1) / (i.high * unit)) : Int) - 1) else digitCount whole

/-- The shortest decimal for `m · 2 ^ q`, where `m` has at most 53 bits. Seventeen digits always
read back, so a search over the spacings of nineteen digits ends with an answer. -/
def decimal (tie : Tie) (m : Nat) (q : Int) : Decimal :=
  let interval := Interval.ofValue m q
  let spacings := (List.range 20).map fun (n : Nat) ↦ interval.topExponent - (n : Int)
  (spacings.findSome? (interval.onGrid? tie)).getD ⟨m, 0⟩

end Shortest

end PreparedSql
