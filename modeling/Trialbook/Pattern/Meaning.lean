import Trialbook.Pattern.Core
import Trialbook.Pattern.Dialect
import Trialbook.Pattern.Reader

/-!
# From what is written to what is matched

Flags take effect from where they are set to the end of the enclosing group,
names of classes are looked up, and counted repetitions are spelled out. A
pattern is refused here when it names an unknown property, when it could match
half a character, or when it is too large for its dialect.
-/

namespace Trialbook.Pattern

variable [Dialect]

/-- The flags in force at a place of a pattern. -/
structure Mode where
  caseless : Bool := false
  multiLine : Bool := false
  dotMatchesLineFeed : Bool := false
  swapGreed : Bool := false
  unicode : Bool := true
  carriageReturn : Bool := false
  deriving DecidableEq, Repr

namespace Mode

/-- The mode after one change. -/
def change (m : Mode) (c : FlagChange) : Mode :=
  match c.flag with
  | .caseless => { m with caseless := c.on }
  | .multiLine => { m with multiLine := c.on }
  | .dotMatchesLineFeed => { m with dotMatchesLineFeed := c.on }
  | .swapGreed => { m with swapGreed := c.on }
  | .unicode => { m with unicode := c.on }
  | .carriageReturn => { m with carriageReturn := c.on }
  | .verbose => m

/-- The mode after several changes. -/
def changes (m : Mode) (cs : List FlagChange) : Mode := cs.foldl change m

/-- The word characters of a mode. -/
def word (m : Mode) : CharSet := if m.unicode then .word else .asciiWord

/-- A set with the mode's idea of case, and then its complement if asked for.
Where characters are bytes, a set must stay within ASCII. -/
def finish (m : Mode) (negated : Bool) (s : CharSet) : Option CharSet :=
  let s := if m.caseless then if m.unicode then .caseless s else .asciiCaseless s else s
  let s := if negated then .compl s else s
  if !m.unicode && s.contains 0x80 then none else some s

end Mode

namespace ClassTree

/-- The code point of a character inside a class. -/
def point? (m : Mode) (l : Literal) : Option Nat :=
  if m.unicode || l.char.toNat < 0x80 then some l.char.toNat else none

mutual

/-- The set that a class stands for. -/
def meaning (m : Mode) : ClassTree → Option CharSet
  | one l => (point? m l).map fun n => .range n n
  | range low high => do return .range (← point? m low) (← point? m high)
  | ascii name negated => do m.finish negated (← CharSet.asciiClass? name)
  | short cls negated =>
    let s := match cls with
      | .digit => if m.unicode then CharSet.digit else .asciiDigit
      | .space => if m.unicode then CharSet.space else .asciiSpace
      | .word => m.word
    ({ m with caseless := false } : Mode).finish negated s
  | property name negated =>
    if m.unicode then do
      let found ← Dialect.named? (Unicode.normalizeName name)
      m.finish negated (.ofPointSet found)
    else none
  | valued name value negated =>
    if m.unicode then do
      let found ← Dialect.valued? (Unicode.normalizeName name) (Unicode.normalizeName value)
      m.finish negated (.ofPointSet found)
    else none
  | union items => unionMeaning m items
  | combined op left right => do
    let fold (s : CharSet) : CharSet :=
      if m.caseless then if m.unicode then .caseless s else .asciiCaseless s else s
    let a := fold (← left.meaning m)
    let b := fold (← right.meaning m)
    match op with
    | .intersection => return .inter a b
    | .difference => return .diff a b
    | .symmetricDifference => return .symmDiff a b
  | bracketed negated inner => do m.finish negated (← inner.meaning m)

/-- The set that several classes stand for together. -/
def unionMeaning (m : Mode) : List ClassTree → Option CharSet
  | [] => some .empty
  | item :: rest => do return .union (← item.meaning m) (← unionMeaning m rest)

end

end ClassTree

/-! ## Patterns -/

/-- What has to be known while a tree is read in order: the flags in force, the
number of the next group, and the names of the groups so far. -/
structure Context where
  mode : Mode := {}
  nextGroup : Nat := 1
  names : List (String × Nat) := []

namespace Tree

/-- The condition that a position stands for. -/
def lookOf (m : Mode) : Position → Look
  | .lineStart =>
    if m.multiLine then if m.carriageReturn then .crlfLineStart else .lineStart else .textStart
  | .lineEnd =>
    if m.multiLine then if m.carriageReturn then .crlfLineEnd else .lineEnd else .textEnd
  | .textStart => .textStart
  | .textEnd => .textEnd
  | .wordBoundary => .boundary m.word
  | .notWordBoundary => .notBoundary m.word
  | .wordStart => .wordStart m.word
  | .wordEnd => .wordEnd m.word
  | .wordStartHalf => .wordStartHalf m.word
  | .wordEndHalf => .wordEndHalf m.word

/-- The set that a dot stands for. -/
def dotOf (m : Mode) : Option CharSet :=
  if !m.unicode then none
  else if m.dotMatchesLineFeed then some (.compl .empty)
  else if m.carriageReturn then some (.compl (.ranges [(0x0A, 0x0A), (0x0D, 0x0D)]))
  else some (.compl (.single '\n'))

/-- The set that a single character stands for. -/
def literalOf (m : Mode) (l : Literal) : Option CharSet :=
  if m.unicode then
    if m.caseless && 1 < (Unicode.caseOrbit l.char.toNat).length then
      some (.caseless (.single l.char))
    else some (.single l.char)
  else if l.asByte && 0x80 ≤ l.char.toNat then none
  else if m.caseless then some (.asciiCaseless (.single l.char))
  else some (.single l.char)

mutual

/-- What a tree matches, and what holds behind it. -/
def meaning : Tree → Context → Option (Core × Context)
  | empty, c => some (.empty, c)
  | flags changes, c => some (.empty, { c with mode := c.mode.changes changes })
  | literal l, c => do return (.set (← literalOf c.mode l), c)
  | dot, c => do return (.set (← dotOf c.mode), c)
  | position p, c => some (.look (lookOf c.mode p), c)
  | cls tree, c => do return (.set (← tree.meaning c.mode), c)
  | repetition least most greedy body, c => do
    let (inner, c) ← body.meaning c
    return (inner.repetition least most (greedy != c.mode.swapGreed), c)
  | group kind body, c => do
    match kind with
    | .plain changes =>
      let (inner, after) ← body.meaning { c with mode := c.mode.changes changes }
      return (inner, { after with mode := c.mode })
    | .numbered =>
      let (inner, after) ← body.meaning { c with nextGroup := c.nextGroup + 1 }
      return (.group c.nextGroup inner, { after with mode := c.mode })
    | .named name =>
      let (inner, after) ← body.meaning
        { c with nextGroup := c.nextGroup + 1, names := (name, c.nextGroup) :: c.names }
      return (.group c.nextGroup inner, { after with mode := c.mode })
  | concat parts, c => do
    let (cores, c) ← meanings parts c
    return (.sequence cores, c)
  | alternation branches, c => do
    let (cores, c) ← meanings branches c
    return (.choice cores, c)

/-- What several trees match, one after the other in the text. -/
def meanings : List Tree → Context → Option (List Core × Context)
  | [], c => some ([], c)
  | tree :: rest, c => do
    let (core, c) ← tree.meaning c
    let (cores, c) ← meanings rest c
    return (core :: cores, c)

end

end Tree

end Pattern

/-- A pattern that can be searched for. -/
structure Pattern where
  core : Pattern.Core
  /-- The names of groups, with their numbers. -/
  names : List (String × Nat)
  deriving DecidableEq, Repr, Inhabited

/-- A pattern as it is written, if it is one. Groups that can take no part in
any match are forgotten. -/
def Pattern.ofChars? [Pattern.Dialect] (cs : List Char) : Option Pattern := do
  let tree ← (Tree.ofChars? cs).filter Pattern.Dialect.fits
  let (core, c) ← tree.meaning {}
  let present := core.groups
  return ⟨core, c.names.reverse.filter fun (_, index) => present.contains index⟩

end Trialbook
