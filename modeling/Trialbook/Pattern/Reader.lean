import Trialbook.Pattern.CharSet
import Trialbook.Pattern.Tree
import Trialbook.Text.White

/-!
# Reading a pattern

A pattern's text is read into a `Tree`, or refused. There are no look-around
assertions and no back references; names of groups are unique; and nesting is
limited, so that whatever walks a tree later may recurse over it.

The reader goes through the text once. What it needs to remember of enclosing
groups and brackets is kept on explicit stacks, and every turn of its loops
takes at least one character, so the length of the text is fuel enough.
-/

namespace Trialbook.Pattern.Reader

open Text (isWhite)

/-- The text still to be read. -/
abbrev Rest := List Char

/-- The text from the first character that counts in verbose mode, where white
space and comments do not. -/
def skipBlank : Bool → Rest → Rest
  | _, [] => []
  | true, c :: rest => if c = '\n' then skipBlank false rest else skipBlank true rest
  | false, c :: rest =>
    if isWhite c then skipBlank false rest
    else if c = '#' then skipBlank true rest
    else c :: rest

/-- The text from the next character that counts. -/
def skip (verbose : Bool) (cs : Rest) : Rest := if verbose then skipBlank false cs else cs

/-- The character that the end of a range is looked for by, which in verbose
mode is the first that is not white, one hash apart. -/
def peek (verbose : Bool) (cs : Rest) : Option Char :=
  if verbose then
    match cs.dropWhile isWhite with
    | '#' :: rest => (rest.dropWhile isWhite).head?
    | rest => rest.head?
  else cs.head?

/-- The text behind a word, if it starts with the word. -/
def after? (word : String) (cs : Rest) : Option Rest :=
  if word.toList.isPrefixOf cs then some (cs.drop word.length) else none

/-! ## Numbers -/

/-- The value of a hexadecimal digit. -/
def hexDigit? (c : Char) : Option Nat :=
  if '0' ≤ c ∧ c ≤ '9' then some (c.toNat - 0x30)
  else if 'a' ≤ c ∧ c ≤ 'f' then some (c.toNat - 0x57)
  else if 'A' ≤ c ∧ c ≤ 'F' then some (c.toNat - 0x37)
  else none

/-- The character with the given code, if there is one. -/
def char? (n : Nat) : Option Char := if n.isValidChar then some (Char.ofNat n) else none

/-- A fixed number of hexadecimal digits. -/
def fixedHex (verbose : Bool) : Nat → Nat → Rest → Option (Nat × Rest)
  | 0, value, cs => some (value, cs)
  | _ + 1, _, [] => none
  | count + 1, value, c :: rest => do
    fixedHex verbose count (value * 16 + (← hexDigit? c)) (skip verbose rest)

/-- Hexadecimal digits up to a closing brace, at least one. -/
def bracedHex (verbose : Bool) : Nat → Option Nat → Rest → Option (Nat × Rest)
  | 0, _, _ => none
  | fuel + 1, value, cs =>
    match skip verbose cs with
    | [] => none
    | '\x7d' :: rest => value.map fun v => (v, skip verbose rest)
    | c :: rest => do
      let digit ← hexDigit? c
      bracedHex verbose fuel (some (value.getD 0 * 16 + digit)) rest

/-- Decimal digits. -/
def digitRun (verbose : Bool) : Nat → Option Nat → Rest → Option Nat × Rest
  | 0, value, cs => (value, cs)
  | fuel + 1, value, cs =>
    match cs with
    | c :: rest =>
      if c.isDigit then
        digitRun verbose fuel (some (value.getD 0 * 10 + (c.toNat - 0x30))) (skip verbose rest)
      else (value, cs)
    | [] => (value, cs)

/-- White space, after which comments do not count in verbose mode either. -/
def whiteRun (verbose : Bool) : Nat → Rest → Rest
  | 0, cs => cs
  | fuel + 1, cs =>
    match cs with
    | c :: rest => if isWhite c then whiteRun verbose fuel (skip verbose rest) else cs
    | [] => cs

/-- A count of repetitions, with white space around it. -/
def decimal (verbose : Bool) (cs : Rest) : Option (Nat × Rest) :=
  let cs := cs.dropWhile isWhite
  match digitRun verbose cs.length none cs with
  | (some n, rest) =>
    if n < Nat.pow 2 32 then some (n, whiteRun verbose rest.length rest) else none
  | (none, _) => none

/-! ## Escapes -/

/-- Whether a backslash before the character makes it stand for itself. -/
def isEscapable (c : Char) : Bool :=
  c.toNat < 0x80 && !c.isAlphanum && c != '<' && c != '>'

/-- The escape of a character by its code. -/
def hexEscape (verbose : Bool) (digits : Nat) (cs : Rest) : Option (Literal × Rest) :=
  match skip verbose cs with
  | [] => none
  | '\x7b' :: rest => do
    let (n, rest) ← bracedHex verbose (rest.length + 1) none rest
    return (⟨← char? n, false⟩, rest)
  | cs => do
    let (n, rest) ← fixedHex verbose digits 0 cs
    return (⟨← char? n, digits = 2⟩, rest)

/-- The text up to a closing brace. -/
def braced (verbose : Bool) : Nat → List Char → Rest → Option (List Char × Rest)
  | 0, _, _ => none
  | fuel + 1, taken, cs =>
    match skip verbose cs with
    | [] => none
    | '\x7d' :: rest => some (taken.reverse, rest)
    | c :: rest => braced verbose fuel (c :: taken) rest

/-- A text cut at the first place where a word stands, the word left out. -/
def cutAt? (word : List Char) : List Char → Option (List Char × List Char)
  | [] => none
  | c :: rest =>
    if word.isPrefixOf (c :: rest) then some ([], (c :: rest).drop word.length)
    else (cutAt? word rest).map fun (before, behind) => (c :: before, behind)

/-- A property by the text that names it, alone or with a value. How the two are
joined makes no difference: not even `!=` turns the class around. -/
def propertyClass (negated : Bool) (text : List Char) : ClassTree :=
  let cut? := (cutAt? ['!', '='] text).or ((cutAt? [':'] text).or (cutAt? ['='] text))
  match cut? with
  | some (name, value) => .valued (String.ofList name) (String.ofList value) negated
  | none => .property (String.ofList text) negated

/-- The escape of a property. -/
def propertyEscape (verbose negated : Bool) (cs : Rest) : Option (ClassTree × Rest) :=
  match skip verbose cs with
  | [] => none
  | '\x7b' :: rest => do
    let (text, rest) ← braced verbose (rest.length + 1) [] rest
    return (propertyClass negated text, rest)
  | c :: rest => if c = '\\' then none else some (.property c.toString negated, rest)

/-- Whether the character may stand in the name of a kind of word boundary. -/
def isBoundaryName (c : Char) : Bool := c.isAlpha || c == '-'

/-- The name of a kind of word boundary, up to a closing brace. -/
def boundaryName (verbose : Bool) : Nat → List Char → Rest → Option (String × Rest)
  | 0, _, _ => none
  | fuel + 1, taken, cs =>
    match cs with
    | '\x7d' :: rest => some (String.ofList taken.reverse, rest)
    | c :: rest =>
      if isBoundaryName c then boundaryName verbose fuel (c :: taken) (skip verbose rest) else none
    | [] => none

/-- A word boundary, which braces may narrow down to a side of it. Braces that
hold no name are left alone: they may count repetitions. -/
def boundaryEscape (verbose : Bool) (cs : Rest) : Option (Position × Rest) :=
  match cs with
  | '\x7b' :: rest =>
    match skip verbose rest with
    | [] => none
    | c :: inner =>
      if !isBoundaryName c then some (.wordBoundary, cs)
      else do
        let (name, rest) ← boundaryName verbose (inner.length + 2) [] (c :: inner)
        match name with
        | "start" => some (.wordStart, rest)
        | "end" => some (.wordEnd, rest)
        | "start-half" => some (.wordStartHalf, rest)
        | "end-half" => some (.wordEndHalf, rest)
        | _ => none
  | cs => some (.wordBoundary, cs)

/-- What stands behind a backslash: a character, a class or a position. -/
def escape (verbose : Bool) : Rest → Option (Tree × Rest)
  | [] => none
  | c :: rest =>
    let char (d : Char) : Option (Tree × Rest) := some (.literal ⟨d, false⟩, rest)
    let short (s : ShortClass) (negated : Bool) : Option (Tree × Rest) :=
      some (.cls (.short s negated), rest)
    let position (p : Position) : Option (Tree × Rest) := some (.position p, rest)
    let hex (digits : Nat) : Option (Tree × Rest) :=
      (hexEscape verbose digits rest).map fun (l, rest) => (.literal l, rest)
    let property (negated : Bool) : Option (Tree × Rest) :=
      (propertyEscape verbose negated rest).map fun (c, rest) => (.cls c, rest)
    if isEscapable c then char c
    else match c with
      | 'x' => hex 2
      | 'u' => hex 4
      | 'U' => hex 8
      | 'p' => property false
      | 'P' => property true
      | 'd' => short .digit false
      | 'D' => short .digit true
      | 's' => short .space false
      | 'S' => short .space true
      | 'w' => short .word false
      | 'W' => short .word true
      | 'a' => char '\x07'
      | 'f' => char '\x0c'
      | 't' => char '\t'
      | 'n' => char '\n'
      | 'r' => char '\r'
      | 'v' => char '\x0b'
      | 'A' => position .textStart
      | 'z' => position .textEnd
      | 'B' => position .notWordBoundary
      | '<' => position .wordStart
      | '>' => position .wordEnd
      | 'b' => (boundaryEscape verbose rest).map fun (p, rest) => (.position p, rest)
      | _ => none

/-! ## Brackets -/

/-- A bracketed class that is being read: the left side of a set operation, if
one has been read, and the items since, last first. -/
structure SetLevel where
  negated : Bool
  left : Option (SetOp × ClassTree)
  items : List ClassTree

namespace SetLevel

/-- The level with one item more. -/
def add (l : SetLevel) (item : ClassTree) : SetLevel := { l with items := item :: l.items }

/-- What has been read so far. -/
def content (l : SetLevel) : ClassTree :=
  let right := ClassTree.ofItems l.items.reverse
  match l.left with
  | none => right
  | some (op, left) => .combined op left right

/-- The level after a set operator. -/
def operate (l : SetLevel) (op : SetOp) : SetLevel :=
  ⟨l.negated, some (op, l.content), []⟩

/-- The class when its bracket closes. -/
def close (l : SetLevel) : ClassTree := .bracketed l.negated l.content

end SetLevel

/-- Hyphens at the start of a class, which stand for themselves. -/
def leadingHyphens (verbose : Bool) : Nat → SetLevel → Rest → Option (SetLevel × Rest)
  | 0, _, _ => none
  | fuel + 1, level, cs =>
    match cs with
    | '-' :: rest => leadingHyphens verbose fuel (level.add (.one ⟨'-', false⟩)) (skip verbose rest)
    | [] => none
    | cs => some (level, cs)

/-- The start of a class behind its opening bracket. A closing bracket that
comes first stands for itself. -/
def openSet (verbose : Bool) (cs : Rest) : Option (SetLevel × Rest) := do
  let (negated, cs) := match skip verbose cs with
    | '^' :: rest => (true, skip verbose rest)
    | cs => (false, cs)
  let (level, cs) ← leadingHyphens verbose (cs.length + 1) ⟨negated, none, []⟩ cs
  match cs with
  | ']' :: rest =>
    if level.items.isEmpty then
      match skip verbose rest with
      | [] => none
      | rest => some (level.add (.one ⟨']', false⟩), rest)
    else some (level, cs)
  | cs => some (level, cs)

/-- A named ASCII class behind its opening bracket, if that is what stands
there. -/
def asciiClass? (cs : Rest) : Option (ClassTree × Rest) := do
  let rest ← after? ":" cs
  let (negated, rest) := match rest with
    | '^' :: rest => (true, rest)
    | rest => (false, rest)
  let name := String.ofList (rest.takeWhile (· != ':'))
  let rest ← after? ":]" (rest.dropWhile (· != ':'))
  let _ ← CharSet.asciiClass? name
  return (.ascii name negated, rest)

/-- One character or escape inside brackets. -/
def setAtom (verbose : Bool) : Rest → Option (Tree × Rest)
  | [] => none
  | '\\' :: rest => escape verbose rest
  | c :: rest => some (.literal ⟨c, false⟩, rest)

/-- A character, a range or a class inside brackets. -/
def setItem (verbose : Bool) (cs : Rest) : Option (ClassTree × Rest) := do
  let (first, cs) ← setAtom verbose cs
  let single (cs : Rest) : Option (ClassTree × Rest) :=
    match first with
    | .literal l => some (.one l, cs)
    | .cls c => some (c, cs)
    | _ => none
  match skip verbose cs with
  | [] => none
  | '-' :: behind =>
    let next := peek verbose behind
    if next == some ']' || next == some '-' then single ('-' :: behind)
    else do
      let (second, rest) ← setAtom verbose (skip verbose behind)
      match first, second with
      | .literal low, .literal high =>
        if low.char ≤ high.char then some (.range low high, rest) else none
      | _, _ => none
  | cs => single cs

/-- The rest of a class, with the classes around it on a stack. -/
def setLoop (verbose : Bool) : Nat → List SetLevel → SetLevel → Rest → Option (ClassTree × Rest)
  | 0, _, _, _ => none
  | fuel + 1, outer, level, cs =>
    match skip verbose cs with
    | [] => none
    | '[' :: rest =>
      match asciiClass? rest with
      | some (cls, rest) => setLoop verbose fuel outer (level.add cls) rest
      | none => do
        let (inner, rest) ← openSet verbose rest
        setLoop verbose fuel (level :: outer) inner rest
    | ']' :: rest =>
      match outer with
      | [] => some (level.close, rest)
      | parent :: outer => setLoop verbose fuel outer (parent.add level.close) rest
    | '&' :: '&' :: rest => setLoop verbose fuel outer (level.operate .intersection) rest
    | '-' :: '-' :: rest => setLoop verbose fuel outer (level.operate .difference) rest
    | '~' :: '~' :: rest => setLoop verbose fuel outer (level.operate .symmetricDifference) rest
    | cs => do
      let (item, rest) ← setItem verbose cs
      setLoop verbose fuel outer (level.add item) rest

/-- A class behind its opening bracket. -/
def bracketed (verbose : Bool) (cs : Rest) : Option (ClassTree × Rest) := do
  let (level, rest) ← openSet verbose cs
  setLoop verbose (rest.length + 1) [] level rest

/-! ## Groups and flags -/

/-- The letters of flags. -/
def flag? : Char → Option Flag
  | 'i' => some .caseless
  | 'm' => some .multiLine
  | 's' => some .dotMatchesLineFeed
  | 'U' => some .swapGreed
  | 'u' => some .unicode
  | 'R' => some .carriageReturn
  | 'x' => some .verbose
  | _ => none

/-- Flags up to the colon or parenthesis that ends them, which is left in
place. At most one minus sign stands among them and never at the end, and no
flag comes twice. -/
def flags (on : Bool) (last : Option Char) (taken : List FlagChange) :
    Rest → Option (List FlagChange × Rest)
  | [] => none
  | c :: rest =>
    if c = ':' ∨ c = ')' then
      if last = some '-' then none else some (taken.reverse, c :: rest)
    else if c = '-' then
      if on then flags false (some c) taken rest else none
    else
      match flag? c with
      | some f =>
        if taken.any (·.flag == f) then none else flags on (some c) (⟨f, on⟩ :: taken) rest
      | none => none

/-- Whether a letter may start the name of a group. Letters of ASCII need no table. -/
def startsName (c : Char) : Bool :=
  c == '_' || c.isAlpha || (CharSet.named "alphabetic").contains c.toNat

/-- Whether a character may go on in the name of a group. -/
def continuesName (c : Char) : Bool :=
  startsName c || c.isDigit || c == '.' || c == '[' || c == ']' ||
    (CharSet.named "n").contains c.toNat

/-- The name of a group up to its closing angle bracket. -/
def groupName (cs : Rest) : Option (String × Rest) :=
  let name := cs.takeWhile (· != '>')
  match name, cs.dropWhile (· != '>') with
  | first :: others, _ :: rest =>
    if startsName first && others.all continuesName then some (String.ofList name, rest) else none
  | _, _ => none

/-- What an opening parenthesis can begin. -/
inductive Opening where
  | group (kind : GroupKind)
  | flags (changes : List FlagChange)

/-- The text behind an opening parenthesis, up to where a body begins. -/
def opening (verbose : Bool) (cs : Rest) : Option (Opening × Rest) :=
  let cs := skip verbose cs
  let starts (word : String) : Bool := (after? word cs).isSome
  if starts "?=" || starts "?!" || starts "?<=" || starts "?<!" then none
  else
    match (after? "?P<" cs).or (after? "?<" cs), after? "?" cs with
    | some rest, _ => do
      let (name, rest) ← groupName rest
      return (.group (.named name), rest)
    | none, some rest => do
      match ← flags true none [] rest with
      | (changes, ')' :: rest) => if changes.isEmpty then none else some (.flags changes, rest)
      | (changes, _ :: rest) => some (.group (.plain changes), rest)
      | (_, []) => none
    | none, none => some (.group .numbered, cs)

/-- The last word on verbose mode in some flags, if they speak of it. -/
def verboseIn (changes : List FlagChange) : Option Bool :=
  (changes.find? (·.flag == .verbose)).map (·.on)

/-! ## Repetition -/

/-- Whether a question mark asks for as few repetitions as possible. -/
def greed (cs : Rest) : Bool × Rest :=
  match cs with
  | '?' :: rest => (false, rest)
  | cs => (true, cs)

/-- The bounds between braces, behind the opening one. -/
def counts (verbose : Bool) (cs : Rest) : Option ((Nat × Option Nat) × Rest) := do
  let (least, cs) ← decimal verbose (skip verbose cs)
  let (most, cs) ← match cs with
    | ',' :: rest =>
      match skip verbose rest with
      | '\x7d' :: _ => some (none, skip verbose rest)
      | rest => (decimal verbose rest).map fun (n, rest) => (some n, rest)
    | cs => some (some least, cs)
  match cs with
  | '\x7d' :: rest =>
    if most.all (least ≤ ·) then some ((least, most), skip verbose rest) else none
  | _ => none

/-! ## The pattern -/

/-- A group that is being read: its finished branches and the parts of the
current one, both last first. -/
structure Level where
  branches : List Tree
  parts : List Tree

namespace Level

/-- The level with one part more. -/
def add (l : Level) (part : Tree) : Level := { l with parts := part :: l.parts }

/-- The level after a bar. -/
def bar (l : Level) : Level := ⟨Tree.ofParts l.parts.reverse :: l.branches, []⟩

/-- What has been read. -/
def close (l : Level) : Tree := Tree.ofBranches l.bar.branches.reverse

/-- The last part repeated. There has to be one, and flags are none. -/
def repeated (l : Level) (least : Nat) (most : Option Nat) (greedy : Bool) : Option Level :=
  match l.parts with
  | [] | .empty :: _ | .flags _ :: _ => none
  | part :: parts => some { l with parts := .repetition least most greedy part :: parts }

end Level

/-- A group around the one that is being read. -/
structure Enclosing where
  level : Level
  kind : GroupKind
  verbose : Bool

/-- The state of the reader between two parts of a pattern. -/
structure State where
  verbose : Bool
  level : Level
  outer : List Enclosing
  names : List String

namespace State

/-- The state with one part more. -/
def add (s : State) (part : Tree) : State := { s with level := s.level.add part }

/-- The state after the last part was repeated. -/
def repeated (s : State) (least : Nat) (most : Option Nat) (greedy : Bool) : Option State :=
  (s.level.repeated least most greedy).map fun level => { s with level }

/-- The state inside a new group. The name of a group may not come twice. -/
def enter (s : State) (kind : GroupKind) : Option State :=
  let inside (verbose : Bool) (names : List String) : State :=
    ⟨verbose, ⟨[], []⟩, ⟨s.level, kind, s.verbose⟩ :: s.outer, names⟩
  match kind with
  | .named name => if s.names.contains name then none else some (inside s.verbose (name :: s.names))
  | .plain changes => some (inside ((verboseIn changes).getD s.verbose) s.names)
  | .numbered => some (inside s.verbose s.names)

/-- The state after the current group closed. -/
def leave (s : State) : Option State :=
  match s.outer with
  | [] => none
  | e :: outer => some ⟨e.verbose, e.level.add (.group e.kind s.level.close), outer, s.names⟩

end State

/-- The rest of a pattern. -/
def loop : Nat → State → Rest → Option Tree
  | 0, _, _ => none
  | fuel + 1, s, cs =>
    match skip s.verbose cs with
    | [] => if s.outer.isEmpty then some s.level.close else none
    | c :: rest =>
      match c with
      | '(' => do
        match ← opening s.verbose rest with
        | (.flags changes, rest) =>
          let s := { s with verbose := (verboseIn changes).getD s.verbose }
          loop fuel (s.add (.flags changes)) rest
        | (.group kind, rest) => loop fuel (← s.enter kind) rest
      | ')' => do loop fuel (← s.leave) rest
      | '|' => loop fuel { s with level := s.level.bar } rest
      | '[' => do
        let (cls, rest) ← bracketed s.verbose rest
        loop fuel (s.add (.cls cls)) rest
      | '?' => do
        let (greedy, rest) := greed rest
        loop fuel (← s.repeated 0 (some 1) greedy) rest
      | '*' => do
        let (greedy, rest) := greed rest
        loop fuel (← s.repeated 0 none greedy) rest
      | '+' => do
        let (greedy, rest) := greed rest
        loop fuel (← s.repeated 1 none greedy) rest
      | '\x7b' => do
        let ((least, most), rest) ← counts s.verbose rest
        let (greedy, rest) := greed rest
        loop fuel (← s.repeated least most greedy) rest
      | '\\' => do
        let (tree, rest) ← escape s.verbose rest
        loop fuel (s.add tree) rest
      | '.' => loop fuel (s.add .dot) rest
      | '^' => loop fuel (s.add (.position .lineStart)) rest
      | '$' => loop fuel (s.add (.position .lineEnd)) rest
      | c => loop fuel (s.add (.literal ⟨c, false⟩)) rest

/-- How deep a pattern may nest. -/
def depthLimit : Nat := 250

end Reader

/-- The tree of a pattern as it is written, if it is a pattern. -/
def Tree.ofChars? (cs : List Char) : Option Tree :=
  (Reader.loop (cs.length + 1) ⟨false, ⟨[], []⟩, [], []⟩ cs).filter
    fun tree => tree.depth ≤ Reader.depthLimit

end Trialbook.Pattern
