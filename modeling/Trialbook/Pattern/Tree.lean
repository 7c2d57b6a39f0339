/-!
# Patterns as written

The tree of a pattern's text, before flags are applied and names are looked up.
-/

namespace Trialbook.Pattern

/-- The switches that a pattern can set for what follows. -/
inductive Flag where
  | caseless
  | multiLine
  | dotMatchesLineFeed
  | swapGreed
  | unicode
  | carriageReturn
  | verbose
  deriving DecidableEq, Repr

/-- A flag turned on or off. -/
structure FlagChange where
  flag : Flag
  on : Bool
  deriving DecidableEq, Repr

/-- A character as written. `asByte` marks two-digit hexadecimal escapes, which
name a byte where characters are bytes. -/
structure Literal where
  char : Char
  asByte : Bool
  deriving DecidableEq, Repr, Inhabited

/-- A place between characters, or at an end of the text. -/
inductive Position where
  | lineStart
  | lineEnd
  | textStart
  | textEnd
  | wordBoundary
  | notWordBoundary
  | wordStart
  | wordEnd
  | wordStartHalf
  | wordEndHalf
  deriving DecidableEq, Repr

/-- The classes with a letter of their own. -/
inductive ShortClass where
  | digit
  | space
  | word
  deriving DecidableEq, Repr

/-- The ways to combine two sets in brackets. -/
inductive SetOp where
  | intersection
  | difference
  | symmetricDifference
  deriving DecidableEq, Repr

/-- A class of characters as written. -/
inductive ClassTree where
  | one (literal : Literal)
  | range (low high : Literal)
  /-- A named ASCII class. -/
  | ascii (name : String) (negated : Bool)
  | short (cls : ShortClass) (negated : Bool)
  /-- A property by its bare name. -/
  | property (name : String) (negated : Bool)
  /-- A property and its value. -/
  | valued (name value : String) (negated : Bool)
  | union (items : List ClassTree)
  | combined (op : SetOp) (left right : ClassTree)
  | bracketed (negated : Bool) (inner : ClassTree)
  deriving Repr, Inhabited

/-- What a pair of parentheses is for. -/
inductive GroupKind where
  | numbered
  | named (name : String)
  | plain (flags : List FlagChange)
  deriving Repr, Inhabited

/-- A pattern as written. -/
inductive Tree where
  | empty
  | flags (changes : List FlagChange)
  | literal (literal : Literal)
  | dot
  | position (position : Position)
  | cls (cls : ClassTree)
  /-- At least `least` and at most `most` repetitions. -/
  | repetition (least : Nat) (most : Option Nat) (greedy : Bool) (body : Tree)
  | group (kind : GroupKind) (body : Tree)
  | concat (parts : List Tree)
  | alternation (branches : List Tree)
  deriving Repr, Inhabited

namespace ClassTree

/-- Nothing, the item itself, or the union of several. -/
def ofItems : List ClassTree → ClassTree
  | [item] => item
  | items => union items

mutual

/-- The depth to which brackets and set operations nest. -/
def depth : ClassTree → Nat
  | one _ | range .. | ascii .. | short .. | property .. | valued .. => 0
  | union items => depths items + 1
  | combined _ left right => max left.depth right.depth + 1
  | bracketed _ inner => inner.depth + 1

/-- The greatest depth among several. -/
def depths : List ClassTree → Nat
  | [] => 0
  | item :: rest => max item.depth (depths rest)

end

end ClassTree

namespace Tree

/-- Nothing, the part itself, or several in a row. -/
def ofParts : List Tree → Tree
  | [] => empty
  | [part] => part
  | parts => concat parts

/-- The branch itself, or a choice between several. -/
def ofBranches : List Tree → Tree
  | [branch] => branch
  | branches => alternation branches

mutual

/-- The depth to which a pattern nests. -/
def depth : Tree → Nat
  | empty | flags _ | literal _ | dot | position _ => 0
  | cls c => c.depth
  | repetition _ _ _ body => body.depth + 1
  | group _ body => body.depth + 1
  | concat parts => depths parts + 1
  | alternation branches => depths branches + 1

/-- The greatest depth among several. -/
def depths : List Tree → Nat
  | [] => 0
  | tree :: rest => max tree.depth (depths rest)

end

end Tree

end Trialbook.Pattern
