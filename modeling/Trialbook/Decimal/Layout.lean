import Trialbook.Decimal.Shortest

/-!
# Layouts of a decimal

Which digits a number has is one question and how they are laid out another.
A `Layout` answers the second: which numbers are written positionally and which
with an exponent, and the words for the values that have no digits.
-/

namespace Trialbook.Decimal

/-- How a value is written out. -/
structure Layout where
  /-- The word for a value that is not a number. -/
  nan : String
  /-- The word for infinity, which a minus sign may precede. -/
  infinity : String
  /-- Whether a number is written positionally, by the number of digits that
  stand before its decimal point (zero and less for leading zeros). -/
  positional : Int → Bool

namespace Layout

/-- `n` zeros. -/
def zeros (n : Nat) : String := String.ofList (List.replicate n '0')

/-- A positive decimal without an exponent, with at least one digit on either
side of the point. -/
def writePositional (digits : String) (exponent : Int) : String :=
  let point : Int := digits.length + exponent
  if 0 ≤ exponent then digits ++ zeros exponent.toNat ++ ".0"
  else if 0 < point then
    let cs := digits.toList
    String.ofList (cs.take point.toNat) ++ "." ++ String.ofList (cs.drop point.toNat)
  else "0." ++ zeros (-point).toNat ++ digits

/-- A positive decimal with one digit before the point and an exponent; a
single digit has no point. -/
def writeScientific (digits : String) (exponent : Int) : String :=
  let power := toString (digits.length + exponent - 1)
  match digits.toList with
  | [] => ""
  | [d] => d.toString ++ "e" ++ power
  | d :: rest => d.toString ++ "." ++ String.ofList rest ++ "e" ++ power

/-- The text of a value: its fewest digits in this layout. -/
def write (l : Layout) : Binary64 → String
  | .nan => l.nan
  | .infinite negative => (if negative then "-" else "") ++ l.infinity
  | .finite negative m q =>
    let magnitude :=
      if m = 0 then "0.0"
      else
        let d := shortest m q
        let digits := Nat.repr d.coefficient
        if l.positional (digits.length + d.exponent) then writePositional digits d.exponent
        else writeScientific digits d.exponent
    (if negative then "-" else "") ++ magnitude

end Layout

end Trialbook.Decimal
