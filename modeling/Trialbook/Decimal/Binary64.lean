/-!
# Binary floating-point values

A document's fractional numbers are the values of the 64-bit binary format: a
sign, a whole number of at most 53 binary digits, and a power of two. This
module holds the type and the one operation that makes a value, which is
rounding a decimal: to nearest, halves to the even neighbour, and beyond the
largest finite value to an infinity.

The arithmetic is on natural numbers throughout, so a value read here is exact
by construction and nothing depends on a machine's floating-point unit.
-/

namespace Trialbook.Decimal

/-- A value of the 64-bit binary format. A finite value is
`mantissa * 2 ^ exponent`, with the mantissa full (at least `2 ^ 52`) unless the
exponent is the least one; zero has a sign of its own. -/
inductive Binary64 where
  | nan
  | infinite (negative : Bool)
  | finite (negative : Bool) (mantissa : Nat) (exponent : Int)
  deriving DecidableEq, Repr, Inhabited

namespace Binary64

/-- The exponent of the finest grid the format has. -/
def leastExponent : Int := -1074

/-- The exponent of its coarsest grid. -/
def greatestExponent : Int := 971

/-- The number of binary digits of a mantissa. -/
def precision : Nat := 53

/-- Whether two values are the same number. Zeros of either sign are, and a
not-a-number is the same as another one: a document has only one. -/
def same : Binary64 → Binary64 → Bool
  | finite s m e, finite s' m' e' => (m == 0 && m' == 0) || (s == s' && m == m' && e == e')
  | a, b => a == b

/-- `num / den` to the nearest whole number, halves to the even one. -/
def roundHalfEven (num den : Nat) : Nat :=
  let q := num / den
  let twice := 2 * (num % den)
  if twice < den then q
  else if den < twice then q + 1
  else if q % 2 = 0 then q else q + 1

/-- The fraction `num / den` divided by `2 ^ e`, again as a fraction. -/
def scale (num den : Nat) (e : Int) : Nat × Nat :=
  if 0 ≤ e then (num, den * Nat.pow 2 e.toNat) else (num * Nat.pow 2 (-e).toNat, den)

/-- The grid on which a positive fraction is rounded: the one that leaves it
exactly `precision` binary digits, but none finer than the finest. -/
def gridExponent (num den : Nat) : Int :=
  let guess : Int := (Nat.log2 num : Int) - (Nat.log2 den : Int) - (precision : Int)
  let fits (e : Int) : Bool :=
    let (n, d) := scale num den e
    n < d * Nat.pow 2 precision
  let e := if fits guess then guess else guess + 1
  max leastExponent e

/-- A positive fraction, rounded. -/
def ofRatio (negative : Bool) (num den : Nat) : Binary64 :=
  let e := gridExponent num den
  let (n, d) := scale num den e
  let m := roundHalfEven n d
  let (m, e) := if m = Nat.pow 2 precision then (Nat.pow 2 (precision - 1), e + 1) else (m, e)
  if greatestExponent < e then infinite negative else finite negative m e

/-- `coefficient * 10 ^ exponent`, rounded. Exponents far outside the format's
range are settled by the number of digits alone, so that no huge power is
formed. -/
def ofDecimal (negative : Bool) (coefficient : Nat) (exponent : Int) : Binary64 :=
  if coefficient = 0 then finite negative 0 leastExponent
  else
    let magnitude : Int := exponent + (Nat.repr coefficient).length
    if 400 < magnitude then infinite negative
    else if magnitude < -400 then finite negative 0 leastExponent
    else if 0 ≤ exponent then ofRatio negative (coefficient * Nat.pow 10 exponent.toNat) 1
    else ofRatio negative coefficient (Nat.pow 10 (-exponent).toNat)

/-- Whether the value is a number and not infinite. -/
def isFinite : Binary64 → Bool
  | finite .. => true
  | _ => false

end Binary64

end Trialbook.Decimal
