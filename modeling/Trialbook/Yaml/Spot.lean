import Trialbook.Yaml.Character

/-!
# Characters with their places

Depth in a document is a matter of columns, so the reader works on characters
that know theirs. The three ways to end a line with a carriage return or a line
feed, and the next-line character, become one line feed here; the line and
paragraph separators stay what they are.
-/

namespace Trialbook.Yaml

/-- A character and where it stands, lines and columns counted from zero. -/
structure Spot where
  char : Char
  line : Nat
  column : Nat
  deriving DecidableEq, Repr

namespace Spot

open Character (isBreak isBlankOrBreak)

/-- Whether a document may contain the character at all. -/
def isAllowed (c : Char) : Bool :=
  let n := c.toNat
  n == 0x09 || n == 0x0A || n == 0x0D || (0x20 ≤ n && n ≤ 0x7E) || n == 0x85
    || (0xA0 ≤ n && n ≤ 0xD7FF) || (0xE000 ≤ n && n ≤ 0xFFFD) || 0x10000 ≤ n

/-- The characters of a text that starts at the given place. Line ends are made
one, and `pending` tells that a carriage return has just ended a line. -/
def place (line column : Nat) (pending : Bool) : List Char → List Spot
  | [] => []
  | c :: rest =>
    if c == '\n' && pending then place line column false rest
    else if c == '\r' || c == '\n' || c == '\x85' then
      ⟨'\n', line, column⟩ :: place (line + 1) 0 (c == '\r') rest
    else if isBreak c then ⟨c, line, column⟩ :: place (line + 1) 0 false rest
    else ⟨c, line, column⟩ :: place line (column + 1) false rest

/-- The characters of a document. A byte-order mark in front is none of them, but
takes up a column. -/
def ofText? (text : String) : Option (List Spot) :=
  let cs := text.toList
  if !cs.all isAllowed then none
  else
    match cs with
    | '\uFEFF' :: rest => some (place 0 1 false rest)
    | cs => some (place 0 0 false cs)

/-- Whether a blank, a line end or the end of the text comes next. -/
def gapAhead : List Spot → Bool
  | [] => true
  | s :: _ => isBlankOrBreak s.char

/-- Whether the given character comes next. -/
def ahead (c : Char) : List Spot → Bool
  | [] => false
  | s :: _ => s.char == c

/-- Whether the mark of a document's start or end comes next, which counts at the
beginning of a line only. -/
def marker? : List Spot → Option Char
  | a :: b :: c :: rest =>
    if a.column == 0 && (a.char == '-' || a.char == '.') && b.char == a.char && c.char == a.char
      && gapAhead rest then some a.char
    else none
  | _ => none

/-- The characters without their places. -/
def chars (spots : List Spot) : List Char := spots.map char

/-- The longest prefix of characters of a class, and the rest. -/
def span (p : Char → Bool) (spots : List Spot) : List Char × List Spot :=
  (chars (spots.takeWhile fun s => p s.char), spots.dropWhile fun s => p s.char)

/-- The text without the characters of a class in front. -/
def skip (p : Char → Bool) (spots : List Spot) : List Spot := spots.dropWhile fun s => p s.char

/-- What follows the given character, if it comes next. -/
def expect? (c : Char) : List Spot → Option (List Spot)
  | [] => none
  | s :: rest => if s.char == c then some rest else none

/-- What follows the end of the line, when nothing but blanks and a comment stands
before it. A comment may follow without a blank. -/
def lineRest? (spots : List Spot) : Option (List Spot) :=
  let spots := skip Character.isBlank spots
  let spots := if ahead '#' spots then skip (!isBreak ·) spots else spots
  match spots with
  | [] => some []
  | s :: rest => if isBreak s.char then some rest else none

end Spot

end Trialbook.Yaml
