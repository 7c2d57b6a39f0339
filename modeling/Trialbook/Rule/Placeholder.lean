/-!
# Placeholders

Rule patterns, their destinations and token fragments hold placeholders such as
`<NAME>`: a name of ASCII letters, digits and underscores that does not begin
with a digit, between angle brackets. Everything else, a lone bracket included,
is plain text.
-/

namespace Trialbook.Rule

/-- A piece of a text with placeholders. -/
inductive Piece where
  | char (c : Char)
  | reference (name : String)
  deriving DecidableEq, Repr

namespace Piece

/-- Whether a placeholder's name may begin with the character. -/
def startsName (c : Char) : Bool := c.isAlpha || c == '_'

/-- Whether a placeholder's name may go on with the character. -/
def continuesName (c : Char) : Bool := startsName c || c.isDigit

/-- The name that stands before a closing bracket, if the text begins with one. -/
def name? (cs : List Char) : Option (List Char) :=
  let name := cs.takeWhile continuesName
  match name, cs.drop name.length with
  | first :: _, '>' :: _ => if startsName first then some name else none
  | _, _ => none

/-- The pieces of a text whose first `skipped` characters have been read
already. -/
def scanFrom : Nat → List Char → List Piece
  | _, [] => []
  | skipped + 1, _ :: rest => scanFrom skipped rest
  | 0, c :: rest =>
    if c = '<' then
      match name? rest with
      | some name => reference (String.ofList name) :: scanFrom (name.length + 1) rest
      | none => char c :: scanFrom 0 rest
    else char c :: scanFrom 0 rest

/-- The pieces of a text, from left to right. -/
def scan (text : String) : List Piece := scanFrom 0 text.toList

/-- A piece as it is written. -/
def written : Piece → List Char
  | char c => [c]
  | reference name => '<' :: (name.toList ++ ['>'])

end Piece

end Trialbook.Rule
