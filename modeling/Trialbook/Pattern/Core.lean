import Trialbook.Pattern.CharSet

/-!
# What a pattern matches

A pattern is built from characters and places by sequence, preferred choice and
repetition, with numbered groups that remember what they matched. Counted
repetition is spelled out, so that this small language is all there is to reason
about.

`Core.Matches` says, without any search, which stretches of a text a pattern
matches. A text is seen as what stands before and what stands behind a place.
-/

namespace Trialbook.Pattern

/-- A condition on a place of the text. -/
inductive Look where
  | textStart
  | textEnd
  | lineStart
  | lineEnd
  /-- Line ends are a line feed, a carriage return, or both in that order. -/
  | crlfLineStart
  | crlfLineEnd
  /-- The remaining ones are about words, by the set of word characters. -/
  | boundary (word : CharSet)
  | notBoundary (word : CharSet)
  | wordStart (word : CharSet)
  | wordEnd (word : CharSet)
  | wordStartHalf (word : CharSet)
  | wordEndHalf (word : CharSet)
  deriving DecidableEq, Repr, Inhabited

/-- Whether the condition holds between two characters. -/
def Look.holds (l : Look) (before after : Option Char) : Bool :=
  let isWord (word : CharSet) (c : Option Char) : Bool := c.any fun c => word.contains c.toNat
  match l with
  | textStart => before.isNone
  | textEnd => after.isNone
  | lineStart => before.all (· == '\n')
  | lineEnd => after.all (· == '\n')
  | crlfLineStart =>
    before.all fun c => c == '\n' || (c == '\r' && after != some '\n')
  | crlfLineEnd =>
    after.all fun c => c == '\r' || (c == '\n' && before != some '\r')
  | boundary word => isWord word before != isWord word after
  | notBoundary word => isWord word before == isWord word after
  | wordStart word => !isWord word before && isWord word after
  | wordEnd word => isWord word before && !isWord word after
  | wordStartHalf word => !isWord word before
  | wordEndHalf word => !isWord word after

/-- A pattern. -/
inductive Core where
  | empty
  /-- One character of a set. -/
  | set (points : CharSet)
  | look (condition : Look)
  | group (index : Nat) (body : Core)
  | cat (first second : Core)
  /-- The first if it leads to a match, otherwise the second. -/
  | alt (first second : Core)
  /-- Any number of times: as many as possible if greedy, else as few. -/
  | loop (greedy : Bool) (body : Core)
  /-- The same, but at least once. -/
  | plus (greedy : Bool) (body : Core)
  deriving DecidableEq, Repr, Inhabited

/-- A stretch is matched by a pattern. -/
inductive Core.Matches : Core → List Char → List Char → List Char → Prop where
  | empty {before behind : List Char} : Matches .empty before [] behind
  | set {points : CharSet} {c : Char} {before behind : List Char}
      (h : points.contains c.toNat = true) : Matches (.set points) before [c] behind
  | look {condition : Look} {before behind : List Char}
      (h : condition.holds before.head? behind.head? = true) :
      Matches (.look condition) before [] behind
  | group {index : Nat} {body : Core} {before text behind : List Char}
      (h : Matches body before text behind) : Matches (.group index body) before text behind
  | cat {first second : Core} {before text text' behind : List Char}
      (h : Matches first before text (text' ++ behind))
      (h' : Matches second (text.reverse ++ before) text' behind) :
      Matches (.cat first second) before (text ++ text') behind
  | altFirst {first second : Core} {before text behind : List Char}
      (h : Matches first before text behind) : Matches (.alt first second) before text behind
  | altSecond {first second : Core} {before text behind : List Char}
      (h : Matches second before text behind) : Matches (.alt first second) before text behind
  | loopDone {greedy : Bool} {body : Core} {before behind : List Char} :
      Matches (.loop greedy body) before [] behind
  | loopMore {greedy : Bool} {body : Core} {before text text' behind : List Char}
      (h : Matches body before text (text' ++ behind))
      (h' : Matches (.loop greedy body) (text.reverse ++ before) text' behind) :
      Matches (.loop greedy body) before (text ++ text') behind
  | plus {greedy : Bool} {body : Core} {before text text' behind : List Char}
      (h : Matches body before text (text' ++ behind))
      (h' : Matches (.loop greedy body) (text.reverse ++ before) text' behind) :
      Matches (.plus greedy body) before (text ++ text') behind

namespace Core

/-- Whether every match takes at least one character. -/
def consumes : Core → Bool
  | empty | look _ => false
  | set _ => true
  | group _ body => body.consumes
  | cat first second => first.consumes || second.consumes
  | alt first second => first.consumes && second.consumes
  | loop .. => false
  | plus _ body => body.consumes

/-- Whether no match takes any character. -/
def takesNothing : Core → Bool
  | empty | look _ => true
  | set _ => false
  | group _ body => body.takesNothing
  | cat first second => first.takesNothing && second.takesNothing
  | alt first second => first.takesNothing && second.takesNothing
  | loop _ body | plus _ body => body.takesNothing

/-- The body or nothing. -/
def optional (greedy : Bool) (body : Core) : Core :=
  if greedy then alt body empty else alt empty body

/-- The body any number of times. A body that may take nothing is tried once
before it is repeated, so that an empty match of it counts as one. -/
def zeroOrMore (greedy : Bool) (body : Core) : Core :=
  if body.consumes then loop greedy body else optional greedy (plus greedy body)

/-- The body `count` times and then something else. -/
def times (body : Core) : Nat → Core → Core
  | 0, tail => tail
  | count + 1, tail => cat body (times body count tail)

/-- The body exactly `count` times. -/
def exactly (body : Core) : Nat → Core
  | 0 => empty
  | 1 => body
  | count + 2 => cat body (exactly body (count + 1))

/-- The body at most `count` times. -/
def upTo (greedy : Bool) (body : Core) : Nat → Core
  | 0 => empty
  | 1 => optional greedy body
  | count + 2 => optional greedy (cat body (upTo greedy body (count + 1)))

/-- The body at least `least` times and at most `most` times. Repeating what
takes nothing more than once changes nothing. -/
def repetition (least : Nat) (most : Option Nat) (greedy : Bool) (body : Core) : Core :=
  let (least, most) :=
    if body.takesNothing then (min least 1, some (most.elim 1 (min · 1))) else (least, most)
  match most with
  | none =>
    match least with
    | 0 => zeroOrMore greedy body
    | 1 => plus greedy body
    | least + 2 => times body (least + 1) (plus greedy body)
  | some most =>
    if most ≤ least then exactly body least
    else if least = 0 then upTo greedy body most
    else times body least (upTo greedy body (most - least))

/-- One after the other. -/
def sequence : List Core → Core
  | [] => empty
  | [r] => r
  | r :: rest => cat r (sequence rest)

/-- The first that leads to a match. -/
def choice : List Core → Core
  | [] => empty
  | [r] => r
  | r :: rest => alt r (choice rest)

/-- The groups of a pattern by number. -/
def groups : Core → List Nat
  | empty | set _ | look _ => []
  | group index body => index :: body.groups
  | cat first second => first.groups ++ second.groups
  | alt first second => first.groups ++ second.groups
  | loop _ body | plus _ body => body.groups

/-- How many different things can be left to match while this is matched. -/
def stateCount : Core → Nat
  | empty | set _ | look _ => 1
  | group _ body => body.stateCount + 2
  | cat first second => first.stateCount + second.stateCount + 1
  | alt first second => first.stateCount + second.stateCount + 1
  | loop _ body => body.stateCount + 1
  | plus _ body => body.stateCount + 2

end Core

end Trialbook.Pattern
