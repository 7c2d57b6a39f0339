/-!
# Sets of code points

Tables of character properties are written as texts of hexadecimal code points
and ranges in ascending order, such as `"41-5A 61-7A AA"`. This module reads
them and answers membership.
-/

namespace Trialbook.Unicode

/-- Ascending, disjoint, closed ranges of code points. -/
abbrev Ranges := List (Nat × Nat)

namespace Ranges

/-- Whether a code point lies in one of the ranges. -/
def contains : Ranges → Nat → Bool
  | [], _ => false
  | (low, high) :: rest, n => if n < low then false else n ≤ high || contains rest n

end Ranges

/-- The value of a hexadecimal digit in capitals. -/
def hexDigit (c : Char) : Nat :=
  if c.isDigit then c.toNat - '0'.toNat else c.toNat - 'A'.toNat + 10

/-- The value of a text of hexadecimal digits in capitals. -/
def hexValue (cs : List Char) : Nat := cs.foldl (fun n c => n * 16 + hexDigit c) 0

/-- The pieces of a text between separators, empty ones left out. -/
def pieces (isSeparator : Char → Bool) (cs : List Char) : List (List Char) :=
  let (last, done) := cs.foldr
    (fun c (piece, done) =>
      if isSeparator c then ([], if piece.isEmpty then done else piece :: done)
      else (c :: piece, done))
    (([] : List Char), ([] : List (List Char)))
  if last.isEmpty then done else last :: done

/-- The items of a table's text, which stand between spaces and line ends. -/
def tableItems (text : String) : List (List Char) :=
  pieces (fun c => c == ' ' || c == '\n') text.toList

/-- The ranges that a table's text lists. -/
def rangesOfText (text : String) : Ranges :=
  (tableItems text).map fun piece =>
    match pieces (· == '-') piece with
    | [low, high] => (hexValue low, hexValue high)
    | _ => (hexValue piece, hexValue piece)

end Trialbook.Unicode
