import PreparedSql.Double.Shortest

/-!
# Decimal texts of doubles

The shortest digits of a double are laid out either positionally, with zeros up to the point, or
with one digit before the point and an exponent. A `Layout` collects what a format decides:
which decimal exponents are positional, what follows a whole number, and where a digit goes that is
half-way between two.
-/

namespace PreparedSql

/-- The decisions of a decimal format. -/
structure Layout where
  /-- Which neighbour a last digit takes that is half-way between two. -/
  tie : Tie
  /-- Whether a number whose first digit stands for `10 ^ e` is written without an exponent. -/
  positional : (e : Int) → Bool
  /-- What is written after the digits of a whole number in positional form. -/
  wholeEnd : List Char

namespace Layout

/-- The digits `0.digits · 10 ^ point`, positionally. -/
def positionalText (layout : Layout) (digits : List Char) (point : Int) : List Char :=
  match point with
  | .negSucc n => ['0', '.'] ++ List.replicate (n + 1) '0' ++ digits
  | .ofNat 0 => ['0', '.'] ++ digits
  | .ofNat n =>
    if digits.length ≤ n then
      digits ++ List.replicate (n - digits.length) '0' ++ layout.wholeEnd
    else digits.take n ++ ['.'] ++ digits.drop n

/-- The digits `0.digits · 10 ^ point`, with one digit before the point and a signed exponent. -/
def exponentText (digits : List Char) (point : Int) : List Char :=
  let mantissa :=
    match digits with
    | d :: e :: rest => d :: '.' :: e :: rest
    | short => short
  let exponent := point - 1
  let sign := if exponent < 0 then '-' else '+'
  mantissa ++ ['e', sign] ++ Nat.toDigits 10 exponent.natAbs

/-- The text of `m · 2 ^ q`. -/
def magnitudeText (layout : Layout) (m : Nat) (q : Int) : List Char :=
  if m = 0 then '0' :: layout.wholeEnd
  else
    let decimal := Shortest.decimal layout.tie m q
    let digits := Nat.toDigits 10 decimal.digits
    let point := decimal.exponent + digits.length
    if layout.positional (point - 1) then layout.positionalText digits point
    else exponentText digits point

/-- The text of a finite double; infinities and NaN have none. -/
def text? (layout : Layout) (d : Double) : Option (List Char) :=
  match d.decode with
  | .finite negative m q =>
    some ((if negative then ['-'] else []) ++ layout.magnitudeText m q)
  | _ => none

end Layout

end PreparedSql
