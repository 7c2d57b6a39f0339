import Trialbook.Yaml.Plain
import Trialbook.Yaml.Token

/-!
# Scalars

A scalar is plain, in quotes or a block. In the first two a line end with the
blanks around it is folded: into a space, or, when empty lines follow it, into
the ends of those. Texts under construction are lists with the latest character
first.
-/

namespace Trialbook.Yaml.Token

open Character (isBlank isBreak isBlankOrBreak)
open Spot (gapAhead marker?)

/-- Blanks and line ends between two parts of a scalar. -/
structure Fold where
  /-- The blanks, as long as there is no line end. -/
  blanks : List Char := []
  broken : Bool := false
  first : Option Char := none
  /-- The line ends after the first. -/
  others : List Char := []

namespace Fold

/-- A blank or a line end more. Blanks at a line end do not count. -/
def put (f : Fold) (c : Char) : Fold :=
  if isBreak c then
    if f.broken then { f with others := c :: f.others } else ⟨[], true, some c, []⟩
  else if f.broken then f
  else { f with blanks := c :: f.blanks }

/-- The fold at a line end that does not count itself. -/
def escaped : Fold := { broken := true }

/-- Whether nothing stands between the parts. -/
def isEmpty (f : Fold) : Bool := f.blanks.isEmpty && !f.broken

/-- The text that the fold amounts to. -/
def text (f : Fold) : List Char :=
  if !f.broken then f.blanks
  else if f.first == some '\n' then if f.others.isEmpty then [' '] else f.others
  else f.others ++ f.first.toList

end Fold

/-- A scalar that has been read. -/
structure Scanned where
  reversed : List Char
  rest : List Spot
  /-- A line end stands between the scalar and what follows it. -/
  broken : Bool

/-- The text of the scalar. -/
def Scanned.text (s : Scanned) : String := String.ofList s.reversed.reverse

/-- Whether a plain scalar ends before the character, blanks and line ends aside. -/
def endsPlain (inFlow : Bool) (c : Char) (rest : List Spot) : Bool :=
  (c == ':' && gapAhead rest) || (inFlow && ",[]\x7b\x7d".contains c)

/-- Whether a colon stands directly before an indicator, which is a fault in
collections in flow style. -/
def isMisplacedColon (inFlow : Bool) (c : Char) (rest : List Spot) : Bool :=
  inFlow && c == ':' && rest.head?.any fun s => ",?[]\x7b\x7d".contains s.char

/-- A plain scalar. In block style its lines must stand deeper than `indent`
columns less one, and so must tabs. -/
def plain? (inFlow : Bool) (indent : Int) : List Spot → Fold → List Char → Option Scanned
  | [], fold, text => some ⟨text, [], fold.broken⟩
  | s :: rest, fold, text =>
    let ended : Scanned := ⟨text, s :: rest, fold.broken⟩
    if isBlankOrBreak s.char then
      if s.char == '\t' && fold.broken && (s.column : Int) < indent then none
      else plain? inFlow indent rest (fold.put s.char) text
    else if fold.broken && !inFlow && (s.column : Int) < indent then some ended
    else if !fold.isEmpty && s.char == '#' then some ended
    else if (marker? (s :: rest)).isSome then some ended
    else if isMisplacedColon inFlow s.char rest then none
    else if endsPlain inFlow s.char rest then some ended
    else plain? inFlow indent rest {} (s.char :: fold.text ++ text)

/-- Where the reading of a quoted scalar is. -/
inductive Quoting where
  | text
  /-- Behind a single quote, which ends the scalar unless another follows. -/
  | quote
  /-- Behind a backslash. -/
  | escape
  /-- In the digits of a character's code: how many are left after the next, and
  what the digits before it amount to. -/
  | code (left total : Nat)

/-- The character that a letter behind a backslash stands for. -/
def escapedChar? (c : Char) : Option Char :=
  match c with
  | '0' => some '\x00'
  | 'a' => some '\x07'
  | 'b' => some '\x08'
  | 't' | '\t' => some '\t'
  | 'n' => some '\n'
  | 'v' => some '\x0B'
  | 'f' => some '\x0C'
  | 'r' => some '\r'
  | 'e' => some '\x1B'
  | ' ' | '"' | '/' | '\\' => some c
  | 'N' => some '\x85'
  | '_' => some '\xA0'
  | 'L' => some '\u2028'
  | 'P' => some '\u2029'
  | _ => none

/-- The number of digits of a code that a letter behind a backslash announces. -/
def codeLength? (c : Char) : Option Nat :=
  match c with
  | 'x' => some 2
  | 'u' => some 4
  | 'U' => some 8
  | _ => none

/-- The character with a code. -/
def charOf? (code : Nat) : Option Char :=
  if code.isValidChar then some (Char.ofNat code) else none

/-- A quoted scalar, from behind its opening quote. Escapes are known in double
quotes only. -/
def quoted? (single : Bool) :
    Quoting → List Spot → Fold → List Char → Option Scanned
  | .text, s :: rest, fold, text =>
    if isBlankOrBreak s.char then quoted? single .text rest (fold.put s.char) text
    else if (marker? (s :: rest)).isSome then none
    else
      let text := fold.text ++ text
      if single && s.char == '\'' then quoted? single .quote rest {} text
      else if !single && s.char == '"' then some ⟨text, rest, false⟩
      else if !single && s.char == '\\' then quoted? single .escape rest {} text
      else quoted? single .text rest {} (s.char :: text)
  | .quote, s :: rest, _, text =>
    if s.char == '\'' then quoted? single .text rest {} ('\'' :: text)
    else some ⟨text, s :: rest, false⟩
  | .quote, [], _, text => some ⟨text, [], false⟩
  | .escape, s :: rest, _, text =>
    if isBreak s.char then quoted? single .text rest Fold.escaped text
    else
      match escapedChar? s.char, codeLength? s.char with
      | some c, _ => quoted? single .text rest {} (c :: text)
      | none, some length => quoted? single (.code (length - 1) 0) rest {} text
      | none, none => none
  | .code left total, s :: rest, _, text =>
    match Plain.digit? 16 s.char, left with
    | none, _ => none
    | some digit, left + 1 => quoted? single (.code left (total * 16 + digit)) rest {} text
    | some digit, 0 =>
      match charOf? (total * 16 + digit) with
      | some c => quoted? single .text rest {} (c :: text)
      | none => none
  | _, [], _, _ => none

/-- What happens to the line ends at the end of a block. -/
inductive Chomping where
  | strip
  | clip
  | keep

/-- What stands behind the mark of a block: its chomping and its indentation, in
either order. -/
structure BlockHeader where
  chomping : Chomping := .clip
  increment : Option Nat := none

namespace BlockHeader

/-- A sign that tells the chomping. -/
def sign? : List Spot → Option (Chomping × List Spot)
  | [] => none
  | s :: rest =>
    if s.char == '+' then some (.keep, rest)
    else if s.char == '-' then some (.strip, rest)
    else none

/-- A digit that tells the indentation. -/
def digit? : List Spot → Option (Nat × List Spot)
  | [] => none
  | s :: rest =>
    if s.char.isDigit then some (s.char.toNat - '0'.toNat, rest) else none

/-- The header and what follows it on the line. -/
def read (spots : List Spot) : BlockHeader × List Spot :=
  match sign? spots, digit? spots with
  | some (chomping, rest), _ =>
    match digit? rest with
    | some (n, rest) => (⟨chomping, some n⟩, rest)
    | none => (⟨chomping, none⟩, rest)
  | none, some (n, rest) =>
    match sign? rest with
    | some (chomping, rest) => (⟨chomping, some n⟩, rest)
    | none => (⟨.clip, some n⟩, rest)
  | none, none => ({}, spots)

end BlockHeader

/-- The widest indentation before the first line with a text, blank lines
included. A tab may not indent. -/
def widestIndent? : List Spot → Nat → Option Nat
  | [], widest => some widest
  | s :: rest, widest =>
    if s.char == ' ' then widestIndent? rest widest
    else if s.char == '\t' then none
    else
      let widest := max widest s.column
      if isBreak s.char then widestIndent? rest widest else some widest

/-- A block under construction. -/
structure Block where
  text : List Char := []
  /-- The end of the latest line with a text. -/
  lineEnd : Option Char := none
  /-- The ends of the empty lines after it. -/
  empties : List Char := []
  /-- The latest line with a text starts with a blank. -/
  indented : Bool := false

namespace Block

/-- A new line, with its first character. When lines are folded the end of the
line before becomes a space, or nothing if empty lines stand between, unless
either line starts with a blank. -/
def startLine (b : Block) (folded : Bool) (c : Char) : Block :=
  let joint :=
    if folded && b.lineEnd == some '\n' && !b.indented && !isBlank c then
      if b.empties.isEmpty then [' '] else []
    else b.lineEnd.toList
  { text := c :: (b.empties ++ joint ++ b.text), indented := isBlank c }

/-- The text of the block. -/
def chomped (b : Block) (chomping : Chomping) : List Char :=
  match chomping with
  | .strip => b.text
  | .clip => b.lineEnd.toList ++ b.text
  | .keep => b.empties ++ b.lineEnd.toList ++ b.text

/-- The lines of a block at the given column; `inLine` tells that the column has
been reached on the current line. -/
def lines? (folded : Bool) (column : Nat) :
    Bool → List Spot → Block → Option (Block × List Spot)
  | _, [], b => some (b, [])
  | true, s :: rest, b =>
    if isBreak s.char then lines? folded column false rest { b with lineEnd := some s.char }
    else lines? folded column true rest { b with text := s.char :: b.text }
  | false, s :: rest, b =>
    if s.column < column && s.char == ' ' then lines? folded column false rest b
    else if s.column < column && s.char == '\t' then none
    else if isBreak s.char then
      lines? folded column false rest { b with empties := s.char :: b.empties }
    else if s.column == column then lines? folded column true rest (b.startLine folded s.char)
    else some (b, s :: rest)

end Block

/-- The column at which a block's lines start, given the indentation around it. -/
def blockColumn? (indent : Int) (increment : Option Nat) (spots : List Spot) : Option Nat :=
  match increment with
  | some 0 => none
  | some n => some (if 0 ≤ indent then indent.toNat + n else n)
  | none => (widestIndent? spots 0).map fun widest => max widest (max 1 (indent + 1).toNat)

/-- A block, from behind its mark. -/
def block? (folded : Bool) (indent : Int) (spots : List Spot) : Option Scanned := do
  let (header, rest) := BlockHeader.read spots
  let rest ← Spot.lineRest? rest
  let column ← blockColumn? indent header.increment rest
  let (block, rest) ← Block.lines? folded column false rest {}
  return ⟨block.chomped header.chomping, rest, true⟩

end Trialbook.Yaml.Token
