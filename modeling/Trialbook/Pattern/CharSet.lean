import Trialbook.Unicode.Lookup

/-!
# Sets of characters

What one place of a pattern may match. A set is kept as the expression that
describes it and is asked only for membership, so that union, complement and
the rest mean what they say and nothing has to be normalised.
-/

namespace Trialbook.Pattern

open Unicode (Ranges PointSet caseOrbit)

/-- A set of code points. -/
inductive CharSet where
  | ranges (points : List (Nat × Nat))
  | union (a b : CharSet)
  | inter (a b : CharSet)
  | diff (a b : CharSet)
  | symmDiff (a b : CharSet)
  | compl (a : CharSet)
  /-- The points that differ from one of the set at most in case. -/
  | caseless (a : CharSet)
  /-- The same for the letters of ASCII alone. -/
  | asciiCaseless (a : CharSet)
  deriving DecidableEq, Repr, Inhabited

namespace CharSet

/-- The ASCII letters that differ from a code point at most in case. -/
def asciiOrbit (n : Nat) : List Nat :=
  if 0x41 ≤ n ∧ n ≤ 0x5A then [n, n + 0x20]
  else if 0x61 ≤ n ∧ n ≤ 0x7A then [n, n - 0x20]
  else [n]

/-- Membership. -/
def contains : CharSet → Nat → Bool
  | ranges points, n => Ranges.contains points n
  | union a b, n => a.contains n || b.contains n
  | inter a b, n => a.contains n && b.contains n
  | diff a b, n => a.contains n && !b.contains n
  | symmDiff a b, n => a.contains n != b.contains n
  | compl a, n => !a.contains n
  | caseless a, n => (caseOrbit n).any fun m => a.contains m
  | asciiCaseless a, n => (asciiOrbit n).any fun m => a.contains m

/-- The set without members. -/
def empty : CharSet := ranges []

/-- The points of a closed range. -/
def range (low high : Nat) : CharSet := ranges [(low, high)]

/-- A single character. -/
def single (c : Char) : CharSet := range c.toNat c.toNat

/-- The points of a named set. -/
def ofPointSet (s : PointSet) : CharSet :=
  let all := s.ranges.foldr (fun r set => union (ranges r) set) empty
  if s.complement then compl all else all

/-- The points of a category, script or property, none if the name is not
known. -/
def named (name : String) : CharSet :=
  ((Unicode.named? name).map ofPointSet).getD empty

/-- Decimal digits of every script. -/
def digit : CharSet := named "nd"

/-- White space. -/
def space : CharSet := named "whitespace"

/-- Letters, marks, decimal digits, connectors and joiners. -/
def word : CharSet :=
  union (named "alphabetic")
    (union (named "m") (union digit (union (named "pc") (named "joinc"))))

/-- Decimal digits of ASCII. -/
def asciiDigit : CharSet := range 0x30 0x39

/-- White space of ASCII. -/
def asciiSpace : CharSet := ranges [(0x09, 0x0D), (0x20, 0x20)]

/-- Letters, digits and the underscore of ASCII. -/
def asciiWord : CharSet := ranges [(0x30, 0x39), (0x41, 0x5A), (0x5F, 0x5F), (0x61, 0x7A)]

/-- The classes of ASCII that have names. -/
def asciiClass? (name : String) : Option CharSet :=
  match name with
  | "alnum" => some (ranges [(0x30, 0x39), (0x41, 0x5A), (0x61, 0x7A)])
  | "alpha" => some (ranges [(0x41, 0x5A), (0x61, 0x7A)])
  | "ascii" => some (range 0x00 0x7F)
  | "blank" => some (ranges [(0x09, 0x09), (0x20, 0x20)])
  | "cntrl" => some (ranges [(0x00, 0x1F), (0x7F, 0x7F)])
  | "digit" => some asciiDigit
  | "graph" => some (range 0x21 0x7E)
  | "lower" => some (range 0x61 0x7A)
  | "print" => some (range 0x20 0x7E)
  | "punct" => some (ranges [(0x21, 0x2F), (0x3A, 0x40), (0x5B, 0x60), (0x7B, 0x7E)])
  | "space" => some asciiSpace
  | "upper" => some (range 0x41 0x5A)
  | "word" => some asciiWord
  | "xdigit" => some (ranges [(0x30, 0x39), (0x41, 0x46), (0x61, 0x66)])
  | _ => none

end CharSet

end Trialbook.Pattern
