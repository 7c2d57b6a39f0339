import Trialbook.Decimal.Binary64

/-!
# The fewest digits that read back

Every finite value stands for an interval of reals: those that round to it. Of
the decimals in that interval the one with the fewest digits is chosen, and of
several with that many digits the nearest to the value.

The search is the statement made into a loop. For one digit, two digits and so
on, only two candidates matter, the grid points on either side of the value:
if any point of a grid lies in the interval then one of these two does.
-/

namespace Trialbook.Decimal

/-- A positive decimal `coefficient * 10 ^ exponent`. -/
structure Digits where
  coefficient : Nat
  exponent : Int
  deriving DecidableEq, Repr, Inhabited

namespace Shortest

/-- Whether `a * 10 ^ i < b * 2 ^ j`, in natural numbers. -/
def below (a : Nat) (i : Int) (b : Nat) (j : Int) : Bool :=
  decide (a * Nat.pow 10 i.toNat * Nat.pow 2 (-j).toNat
    < b * Nat.pow 2 j.toNat * Nat.pow 10 (-i).toNat)

/-- Whether `a * 10 ^ i ≤ b * 2 ^ j`, in natural numbers. -/
def atMost (a : Nat) (i : Int) (b : Nat) (j : Int) : Bool :=
  decide (a * Nat.pow 10 i.toNat * Nat.pow 2 (-j).toNat
    ≤ b * Nat.pow 2 j.toNat * Nat.pow 10 (-i).toNat)

/-- The gap below the least full mantissa is half as wide as the one above. -/
def narrowBelow (m : Nat) (q : Int) : Bool :=
  m == Nat.pow 2 (Binary64.precision - 1) && Binary64.leastExponent < q

/-- Whether the decimal rounds to `m * 2 ^ q`: it lies between the halfway
points to the two neighbours, the ends included when the mantissa is even. -/
def readsBack (m : Nat) (q : Int) (d : Digits) : Bool :=
  let low := if narrowBelow m q then 4 * m - 1 else 4 * m - 2
  let high := 4 * m + 2
  if m % 2 = 0 then
    !below d.coefficient d.exponent low (q - 2) && atMost d.coefficient d.exponent high (q - 2)
  else
    !atMost d.coefficient d.exponent low (q - 2) && below d.coefficient d.exponent high (q - 2)

/-- The least `k` with `m * 2 ^ q < 10 ^ k`, from an estimate by binary digits
that is corrected by at most two steps. -/
def magnitude (m : Nat) (q : Int) : Int :=
  let bits : Int := (Nat.log2 m : Int) + q
  let guess : Int := bits * 30103 / 100000
  let covers (k : Int) : Bool := !atMost 1 k m q
  if covers (guess - 1) then guess - 1
  else if covers guess then guess
  else if covers (guess + 1) then guess + 1
  else guess + 2

/-- `m * 2 ^ q` divided by `10 ^ e`, rounded down. -/
def onGrid (m : Nat) (q e : Int) : Nat :=
  (m * Nat.pow 2 q.toNat * Nat.pow 10 (-e).toNat) / (Nat.pow 2 (-q).toNat * Nat.pow 10 e.toNat)

/-- The candidate with digits on the grid `10 ^ e`, when one reads back: the
nearer of the value's two neighbours, and on a tie the one with an even last
digit. -/
def candidate (m : Nat) (q e : Int) : Option Digits :=
  let down : Digits := ⟨onGrid m q e, e⟩
  let up : Digits := ⟨onGrid m q e + 1, e⟩
  let middle := 2 * down.coefficient + 1
  let valueBelowMiddle := !atMost middle e m (q + 1)
  let valueAboveMiddle := below middle e m (q + 1)
  let downFirst := valueBelowMiddle || (!valueAboveMiddle && down.coefficient % 2 == 0)
  let good (d : Digits) : Bool := 0 < d.coefficient && readsBack m q d
  if downFirst then
    if good down then some down else if good up then some up else none
  else
    if good up then some up else if good down then some down else none

/-- The first candidate over grids of one more digit each. -/
def search (m : Nat) (q k : Int) : Nat → Nat → Option Digits
  | _, 0 => none
  | n, fuel + 1 => (candidate m q (k - n)).or (search m q k (n + 1) fuel)

/-- The decimal without trailing zeros in its coefficient. -/
def strip : Nat → Digits → Digits
  | 0, d => d
  | fuel + 1, d =>
    if d.coefficient ≠ 0 ∧ d.coefficient % 10 = 0 then
      strip fuel ⟨d.coefficient / 10, d.exponent + 1⟩
    else d

end Shortest

/-- The fewest digits that read back as the positive value `m * 2 ^ q`.
Seventeen always suffice. -/
def shortest (m : Nat) (q : Int) : Digits :=
  match Shortest.search m q (Shortest.magnitude m q) 1 17 with
  | some d => Shortest.strip 20 d
  | none => exactly m q
where
  /-- The exact value, should no grid have a hit. -/
  exactly (m : Nat) (q : Int) : Digits := ⟨m * Nat.pow 2 q.toNat * Nat.pow 5 (-q).toNat, min q 0⟩

end Trialbook.Decimal
