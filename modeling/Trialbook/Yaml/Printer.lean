import Trialbook.Yaml.Plain
import Trialbook.Yaml.Character

/-!
# Writing a node as text

Documents are written in block style, two spaces a level, with sequences under
a key standing at the key's own depth. A text is written plain when it reads
back as the same text, otherwise in the first form that can hold it: as a
literal block when it has line feeds, in single quotes, in double quotes.

A tag directly under another tag has no written form, and the only fault is
that.
-/

namespace Trialbook.Yaml

/-- The text written so far, and what the next token has to know about the
current line. -/
structure Page where
  text : String := ""
  column : Nat := 0
  /-- A token may follow without a space. -/
  spaced : Bool := true
  /-- Nothing but indentation and entry marks stands on the line. -/
  fresh : Bool := true
  deriving Repr

namespace Page

/-- One character more on the line. -/
def put (p : Page) (c : Char) : Page :=
  { p with text := p.text.push c, column := p.column + 1 }

/-- Characters more on the line. -/
def puts (p : Page) (s : String) : Page :=
  { p with text := p.text ++ s, column := p.column + s.length }

/-- A line end, which is the given character. -/
def lineEnd (p : Page) (c : Char) : Page :=
  { p with text := p.text.push c, column := 0 }

/-- A space, unless one would be needless. -/
def space (p : Page) : Page := if p.spaced then p else p.put ' '

/-- The line filled with spaces up to a column. -/
def pad (p : Page) (column : Nat) : Page :=
  p.puts (String.ofList (List.replicate (column - p.column) ' '))

/-- The start of an entry at the given depth, on a line of its own unless only
entry marks stand before it. -/
def indent (p : Page) (depth : Nat) : Page :=
  let p :=
    if !p.fresh || depth < p.column || (p.column == depth && !p.spaced) then p.lineEnd '\n' else p
  { p.pad depth with spaced := true, fresh := true }

/-- An indicator. An entry mark keeps the line fresh, any other does not. -/
def mark (p : Page) (s : String) (needsSpace isEntry : Bool) : Page :=
  let p := if needsSpace then p.space else p
  { p.puts s with spaced := false, fresh := p.fresh && isEntry }

/-- The line after the last character of a scalar. -/
def closed (p : Page) : Page := { p with spaced := false, fresh := false }

end Page

/-- The ways to write a text. -/
inductive ScalarStyle where
  | plain
  | singleQuoted
  | doubleQuoted
  | literal
  deriving DecidableEq, Repr

namespace ScalarStyle

open Character

/-- What the choice of a style looks at. -/
structure Traits where
  multiline : Bool
  plainAllowed : Bool
  singleQuotedAllowed : Bool
  literalAllowed : Bool

/-- The place of a character in a text. -/
structure Place where
  before : Option Char
  char : Char
  after : Option Char

/-- Every character of a text with its neighbours. -/
def places : Option Char → List Char → List Place
  | _, [] => []
  | before, c :: rest => ⟨before, c, rest.head?⟩ :: places (some c) rest

/-- Whether a blank, a line end or nothing is there. -/
def isGap : Option Char → Bool
  | none => true
  | some c => isBlankOrBreak c

/-- Whether the character, where it stands, would be taken for an indicator. -/
def isIndicator (p : Place) : Bool :=
  if p.before.isNone then
    "#,[]\x7b\x7d&*!|>'\"%@`".contains p.char
      || ((p.char == '?' || p.char == ':' || p.char == '-') && isGap p.after)
  else
    (p.char == ':' && isGap p.after) || (p.char == '#' && isGap p.before)

/-- The traits of a text. -/
def traits (s : String) : Traits :=
  let cs := s.toList
  if cs.isEmpty then ⟨false, true, true, false⟩
  else
    let ps := places none cs
    let breaks := cs.any isBreak
    let special := cs.any (!isPrintable ·)
    let edge (c : Option Char) : Bool := c.any fun c => c == ' ' || isBreak c
    let spaceThenBreak := ps.any fun p => p.before == some ' ' && isBreak p.char
    let breakThenSpace := ps.any fun p => p.before.any isBreak && p.char == ' '
    let marker := "---".toList.isPrefixOf cs || "...".toList.isPrefixOf cs
    let unsafeInside := spaceThenBreak || special
    { multiline := breaks
      plainAllowed :=
        !(edge cs.head? || edge cs.getLast? || breakThenSpace || unsafeInside || breaks
          || marker || ps.any isIndicator)
      singleQuotedAllowed := !(breakThenSpace || unsafeInside)
      literalAllowed := !(cs.getLast? == some ' ' || unsafeInside) }

/-- The style of a text. As the key of an entry that fits on one line, a text
may not have line ends of its own. -/
def ofText (s : String) (asShortKey : Bool) : ScalarStyle :=
  let t := traits s
  let wanted : ScalarStyle :=
    if s.toList.contains '\n' then .literal
    else if Plain.misread s then .singleQuoted
    else .plain
  let wanted := if asShortKey && t.multiline then .doubleQuoted else wanted
  let wanted := if wanted = .plain ∧ !t.plainAllowed then .singleQuoted else wanted
  let wanted := if wanted = .singleQuoted ∧ !t.singleQuotedAllowed then .doubleQuoted else wanted
  if wanted = .literal ∧ (!t.literalAllowed || asShortKey) then .doubleQuoted else wanted

end ScalarStyle

namespace Page

open Character

/-- Characters between single quotes: a quote is written twice, and a line end
other than the first of a run of them stands as it is. -/
def singleQuotedBody (depth : Nat) : Bool → List Char → Page → Page
  | afterBreak, [], p => if afterBreak then p.indent depth else p
  | afterBreak, c :: rest, p =>
    if c == ' ' then singleQuotedBody depth afterBreak rest (p.put c)
    else if isBreak c then
      let p := if !afterBreak && c == '\n' then p.lineEnd '\n' else p
      singleQuotedBody depth true rest { p.lineEnd c with fresh := true }
    else
      let p := if afterBreak then p.indent depth else p
      let p := if c == '\'' then p.put '\'' else p
      singleQuotedBody depth false rest { p.put c with fresh := false }

/-- A number as an even count of capital hexadecimal digits. -/
def hex (width n : Nat) : String :=
  let digits := (Nat.toDigits 16 n).map Char.toUpper
  String.ofList (List.replicate (width - digits.length) '0' ++ digits)

/-- A character between double quotes. -/
def escape (c : Char) : String :=
  if isPrintable c && !isBreak c && c != '"' && c != '\\' then c.toString
  else
    match c.toNat with
    | 0x00 => "\\0"
    | 0x07 => "\\a"
    | 0x08 => "\\b"
    | 0x09 => "\\t"
    | 0x0A => "\\n"
    | 0x0B => "\\v"
    | 0x0C => "\\f"
    | 0x0D => "\\r"
    | 0x1B => "\\e"
    | 0x22 => "\\\""
    | 0x5C => "\\\\"
    | 0x85 => "\\N"
    | 0xA0 => "\\_"
    | 0x2028 => "\\L"
    | 0x2029 => "\\P"
    | n =>
      if n ≤ 0xFF then "\\x" ++ hex 2 n
      else if n ≤ 0xFFFF then "\\u" ++ hex 4 n
      else "\\U" ++ hex 8 n

/-- The lines of a literal block. -/
def literalBody (depth : Nat) : Bool → List Char → Page → Page
  | _, [], p => p
  | afterBreak, c :: rest, p =>
    if isBreak c then literalBody depth true rest { p.lineEnd c with fresh := true }
    else
      let p := if afterBreak then p.indent depth else p
      literalBody depth false rest { p.put c with fresh := false }

/-- What stands behind the mark of a literal block: an indentation when the
text starts with a gap, and how it ends. -/
def literalHints (cs : List Char) : String :=
  let lead := if cs.head?.any fun c => c == ' ' || isBreak c then "2" else ""
  let tail := match cs.reverse with
    | [] => "-"
    | [c] => if isBreak c then "+" else "-"
    | c :: before :: _ => if !isBreak c then "-" else if isBreak before then "+" else ""
  lead ++ tail

/-- A text in the given style, with continuation lines at the given depth. -/
def scalar (p : Page) (style : ScalarStyle) (depth : Nat) (s : String) : Page :=
  match style with
  | .plain => closed (if s.isEmpty then p else p.space.puts s)
  | .singleQuoted =>
    closed ((singleQuotedBody depth false s.toList (p.mark "'" true false)).mark "'" false false)
  | .doubleQuoted =>
    let p := p.mark "\"" true false
    closed (((s.toList.map escape).foldl puts p).mark "\"" false false)
  | .literal =>
    let p := (p.mark "|" true false).puts (literalHints s.toList)
    literalBody depth true s.toList { p.lineEnd '\n' with spaced := true, fresh := true }

/-- A tag, with characters outside its alphabet written as the bytes of their
encoding. -/
def tag (p : Page) (t : Tag) : Page :=
  let name := String.join (t.name.toList.map fun c =>
    if isWord c || ";/?:@&=+$,_.~*'()[]".contains c then c.toString
    else String.join (c.toString.toUTF8.toList.map fun b => "%" ++ hex 2 b.toNat))
  closed (p.space.puts ("!" ++ name))

end Page

/-- Where a node is written. -/
inductive Site where
  | root
  | item
  | key (short : Bool)
  | value
  deriving DecidableEq, Repr

namespace Site

/-- Whether the node belongs to an entry of a mapping. -/
def inMapping : Site → Bool
  | key _ | value => true
  | root | item => false

end Site

namespace Printer

/-- The number of bytes of a key, when it is one that may stand before its colon
on one line: a scalar without line ends, or an empty collection. -/
def shortKeyLength? : Node → Option Nat
  | .null => some 4
  | .bool b => some (if b then 4 else 5)
  | .number n => some n.toText.utf8ByteSize
  | .text s => if s.toList.any Character.isBreak then none else some s.utf8ByteSize
  | .sequence [] | .mapping [] => some 0
  | .sequence (_ :: _) | .mapping (_ :: _) => none
  | .tagged t inner => (shortKeyLength? inner).map (· + t.toText.utf8ByteSize)

/-- Whether the key and its colon share a line. -/
def isShortKey (key : Node) : Bool := (shortKeyLength? key).any (· ≤ 128)

/-- The depth of a collection's entries, given the depth around it. -/
def deeper : Option Nat → Nat
  | none => 0
  | some depth => depth + 2

mutual

/-- A node, written at `site` with `depth` the depth around it. -/
def node (site : Site) (depth : Option Nat) : Node → Page → Option Page
  | .null, p => some (p.scalar .plain 0 "null")
  | .bool b, p => some (p.scalar .plain 0 (if b then "true" else "false"))
  | .number n, p => some (p.scalar .plain 0 n.toText)
  | .text s, p =>
    some (p.scalar (ScalarStyle.ofText s (site = .key true)) ((depth.getD 0) + 2) s)
  | .sequence xs, p =>
    if xs.isEmpty then some ((p.mark "[" true false).mark "]" false false)
    else
      let depth := if site.inMapping && !p.fresh then depth.getD 0 else deeper depth
      items depth xs p
  | .mapping es, p =>
    if es.isEmpty then some ((p.mark "\x7b" true false).mark "\x7d" false false)
    else entries (deeper depth) es p
  | .tagged t inner, p =>
    match inner with
    | .tagged .. => none
    | inner => node site depth inner (p.tag t)

/-- The items of a sequence. -/
def items (depth : Nat) : List Node → Page → Option Page
  | [], p => some p
  | x :: xs, p => do
    let p ← node .item (some depth) x ((p.indent depth).mark "-" true true)
    items depth xs p

/-- The entries of a mapping. -/
def entries (depth : Nat) : List (Node × Node) → Page → Option Page
  | [], p => some p
  | (k, v) :: es, p => do
    let p := p.indent depth
    let p ←
      if isShortKey k then do
        let p ← node (.key true) (some depth) k p
        pure (p.mark ":" false false)
      else do
        let p ← node (.key false) (some depth) k (p.mark "?" true true)
        pure ((p.indent depth).mark ":" true true)
    let p ← node .value (some depth) v p
    entries depth es p

end

end Printer

/-- The text of a document, unless a tag stands directly under another. -/
def print? (document : Node) : Option String :=
  (Printer.node .root none document {}).map fun p => (p.indent 0).text

end Trialbook.Yaml
